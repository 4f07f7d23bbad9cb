import NpcRuntime.Lib.Machine
import NpcRuntime.Memory.Outbox

/-!
# The lease protocol of the outbox

Workers enqueue, claim, complete and fail jobs in any order and at any times. Beside the table the
machine keeps the claims that were granted, which the code does not: a claim is the worker's
attempt at a job, and it is held as long as the row is leased to that worker in that attempt.

What a call does to the jobs is said once (`Workers.next_step`); the rest follows from it. Every job
is held by at most one claim, and a claim is granted only when the lease before it has expired
(`outbox_protocol`). A lease is identified by the worker's name alone, so a late call settles a
later claim of the same worker (`late_complete`).
-/

namespace NpcRuntime.Memory

open Text Json

/-- The `attempt`-th claim of a job. -/
structure Claim where
  job : Nat
  attempt : Nat
  worker : Text
deriving DecidableEq

/-- The outbox, and the claims granted so far. -/
structure Workers where
  outbox : Outbox
  claims : List Claim

/-- A call; a completion and a failure are issued under a claim. -/
inductive OutboxCall where
  | enqueue (job : OutboxJobInput) (nowMs : Int)
  | claim (worker : Text) (nowMs leaseMs : Int) (limit : Nat)
  | complete (claim : Claim) (nowMs : Int)
  | fail (claim : Claim) (nowMs retryAtMs : Int) (error : Text)
deriving DecidableEq

namespace Workers

def start : Workers := ⟨.empty _, []⟩

/-- The claims of the jobs a worker was given. -/
def granted (worker : Text) (jobs : List OutboxJob) : List Claim :=
  jobs.map fun job => ⟨job.id, job.attempts, worker⟩

def next (codec : Codec) (call : OutboxCall) (w : Workers) : Workers :=
  match call with
  | .enqueue job nowMs => { w with outbox := ((enqueueJob codec job nowMs).commit w.outbox).2 }
  | .claim worker nowMs leaseMs limit =>
    match (MemoryStore.claimJobs codec worker nowMs leaseMs limit).commit w.outbox with
    | (.ok jobs, outbox) => ⟨outbox, w.claims ++ granted worker jobs⟩
    | (.error _, outbox) => { w with outbox }
  | .complete claim nowMs =>
    { w with outbox := ((completeJob claim.job claim.worker nowMs).commit w.outbox).2 }
  | .fail claim nowMs retryAtMs error =>
    { w with outbox :=
      ((MemoryStore.failJob claim.job claim.worker nowMs retryAtMs error).commit w.outbox).2 }

/-- The claim is held: the job is leased to its worker, in its attempt. -/
structure Held (w : Workers) (claim : Claim) : Prop where
  known : claim ∈ w.claims
  leased : ∃ row ∈ w.outbox.rows, row.id = claim.job ∧ row.attempts = claim.attempt ∧
    row.state.leaseOwner = some claim.worker

/-- **A job is held by at most one claim.** -/
theorem Held.unique {w : Workers} {a b : Claim} (ha : w.Held a) (hb : w.Held b)
    (h : a.job = b.job) : a = b := by
  obtain ⟨rowa, hrowa, hida, hattempta, howna⟩ := ha.leased
  obtain ⟨rowb, hrowb, hidb, hattemptb, hownb⟩ := hb.leased
  obtain rfl : rowa = rowb := w.outbox.eq_of_key_eq hrowa hrowb (by rw [hida, hidb, h])
  cases a
  cases b
  simp_all

end Workers

/-! ## What the statements do to the rows -/

variable {nowMs : Int} {outbox : Outbox} {row : OutboxRow}

theorem mem_recoverLeases :
    row ∈ (recoverLeases nowMs outbox).rows ↔ ∃ old ∈ outbox.rows, old.recovered nowMs = row :=
  Rows.mem_update

/-- A recovered row keeps its identity and its attempts; what it may lose is an expired lease. -/
theorem OutboxRow.recovered_cases (nowMs : Int) (row : OutboxRow) :
    row.recovered nowMs = row ∨
      (∃ owner expires, row.state = .processing owner expires ∧ expires ≤ nowMs) ∧
        (row.recovered nowMs).id = row.id ∧ (row.recovered nowMs).attempts = row.attempts ∧
        (row.recovered nowMs).maxAttempts = row.maxAttempts ∧
        (row.recovered nowMs).state =
          if row.maxAttempts ≤ row.attempts then .dead else .pending := by
  unfold recovered
  split
  · next owner expires hstate =>
    by_cases hexpired : expires ≤ nowMs
    · rw [if_pos hexpired]
      exact .inr ⟨⟨owner, expires, hstate, hexpired⟩, rfl, rfl, rfl, rfl⟩
    · rw [if_neg hexpired]
      exact .inl rfl
  · exact .inl rfl

/-- The row of a job that was claimed. -/
def OutboxRow.claimed (worker : Text) (leaseExpires nowMs : Int) (row : OutboxRow) : OutboxRow :=
  { row with
    state := .processing worker leaseExpires
    attempts := row.attempts + 1
    updatedAtMs := nowMs }

/-- **The loop over the claimed jobs leases each of them once.** -/
theorem leaseJobs_rows (ids : List Nat) (worker : Text) (leaseExpires nowMs : Int)
    (outbox : Outbox) :
    (leaseJobs ids worker leaseExpires nowMs outbox).rows = outbox.rows.map fun row =>
      if row.id ∈ ids ∧ row.state = .pending then row.claimed worker leaseExpires nowMs
      else row := by
  induction ids generalizing outbox with
  | nil => simp [leaseJobs]
  | cons id ids ih =>
    have hstep : leaseJobs (id :: ids) worker leaseExpires nowMs outbox =
        leaseJobs ids worker leaseExpires nowMs (outbox.update
          (OutboxRow.leased id worker leaseExpires nowMs)
          (OutboxRow.leased_id id worker leaseExpires nowMs)) := rfl
    rw [hstep, ih]
    show (outbox.rows.map _).map _ = _
    rw [List.map_map]
    apply List.map_congr_left
    intro row _
    show (if (row.leased id worker leaseExpires nowMs).id ∈ ids ∧
        (row.leased id worker leaseExpires nowMs).state = .pending then
      (row.leased id worker leaseExpires nowMs).claimed worker leaseExpires nowMs
      else row.leased id worker leaseExpires nowMs) = _
    rw [OutboxRow.leased_id]
    unfold OutboxRow.leased
    by_cases hid : row.id = id
    · by_cases hpending : row.state = .pending
      · simp [hid, hpending, OutboxRow.claimed]
      · simp [hid, hpending]
    · simp [hid]

theorem claimIds_nodup (outbox : Outbox) (nowMs : Int) (limit : Nat) :
    (claimIds outbox nowMs limit).Nodup := by
  have hfiltered : ((outbox.rows.filter (OutboxRow.claimable nowMs)).map OutboxRow.id).Nodup :=
    outbox.nodup.sublist (List.filter_sublist.map _)
  have hsorted := ((List.perm_insertionSort OutboxRow.before
    (outbox.rows.filter (OutboxRow.claimable nowMs))).map OutboxRow.id).nodup_iff.2 hfiltered
  exact hsorted.sublist ((List.take_sublist _ _).map _)

variable {limit : Nat}

/-- The jobs a claim takes are claimable. -/
theorem mem_claimIds {id : Nat} (h : id ∈ claimIds outbox nowMs limit) :
    ∃ row ∈ outbox.rows, row.id = id ∧ row.claimable nowMs = true := by
  obtain ⟨row, hrow, rfl⟩ := List.mem_map.1 h
  have hfiltered := (List.mem_insertionSort _).1 (List.mem_of_mem_take hrow)
  exact ⟨row, (List.mem_filter.1 hfiltered).1, rfl, (List.mem_filter.1 hfiltered).2⟩

variable {codec : Codec} {outbox' : Outbox} {jobs : List OutboxJob}

/-- Loading jobs changes nothing and gives the rows as jobs. -/
theorem loadJobs_eq_ok {ids : List Nat}
    (h : ids.mapM (loadJobTx codec) outbox = .ok (jobs, outbox')) :
    outbox' = outbox ∧ List.Forall₂ (fun id (job : OutboxJob) => ∃ row, outbox.find? id = some row ∧
      job.id = id ∧ job.attempts = row.attempts) ids jobs := by
  induction ids generalizing jobs outbox' with
  | nil =>
    rw [List.mapM_nil] at h
    obtain ⟨rfl, rfl⟩ := Transaction.pure_eq_ok.1 h
    exact ⟨rfl, .nil⟩
  | cons id ids ih =>
    obtain ⟨job, mid, rest, hjob, htail, rfl⟩ := Transaction.mapM_cons_eq_ok.1 h
    rw [loadJobTx, Transaction.reading_eq, Transaction.lift_eq_ok] at hjob
    obtain ⟨hjob, rfl⟩ := hjob
    obtain ⟨rfl, hforall⟩ := ih htail
    simp only [bind_eq_ok, okOr_eq_ok, OutboxRow.job, pure_eq_ok] at hjob
    obtain ⟨row, hrow, _, _, rfl⟩ := hjob
    refine ⟨rfl, .cons ⟨row, hrow, ?_, rfl⟩ hforall⟩
    exact (Rows.find?_eq_some.1 hrow).2

variable {worker : Text}

/-- **What a claim does**: expired leases are recovered, and the jobs it returns are leased. -/
theorem claimJobs_eq_ok {leaseMs : Int}
    (h : claimJobs codec worker nowMs leaseMs limit outbox = .ok (jobs, outbox')) :
    outbox' = leaseJobs (claimIds (recoverLeases nowMs outbox) nowMs limit) worker
        (i64SaturatingAdd nowMs leaseMs) nowMs (recoverLeases nowMs outbox) ∧
      List.Forall₂ (fun id (job : OutboxJob) => ∃ row, outbox'.find? id = some row ∧
        job.id = id ∧ job.attempts = row.attempts)
        (claimIds (recoverLeases nowMs outbox) nowMs limit) jobs := by
  obtain ⟨_, recovered, hrecovered, h⟩ := Transaction.bind_eq_ok.1 h
  obtain rfl := Transaction.write_eq_ok.1 hrecovered
  rw [Transaction.reading_eq] at h
  obtain ⟨_, leased, hleased, h⟩ := Transaction.bind_eq_ok.1 h
  obtain rfl := Transaction.write_eq_ok.1 hleased
  obtain ⟨rfl, hforall⟩ := loadJobs_eq_ok h
  exact ⟨rfl, hforall⟩

/-- **What an enqueued job does**: nothing where its key is taken, else a new row. -/
theorem enqueueJobTx_eq_ok {job : OutboxJobInput} {id : Nat}
    (h : enqueueJobTx codec job nowMs outbox = .ok (id, outbox')) :
    (job.row codec nowMs outbox.nextId).check codec = true ∧
      ((∃ existing, job.dedupeKey.bind outbox.withKey = some existing ∧ outbox' = outbox) ∨
        job.dedupeKey.bind outbox.withKey = none ∧
          outbox'.rows = outbox.rows ++ [job.row codec nowMs outbox.nextId]) := by
  rw [enqueueJobTx, Transaction.reading_eq] at h
  obtain ⟨_, mid, hguard, h⟩ := Transaction.bind_eq_ok.1 h
  obtain ⟨hcheck, rfl⟩ := Transaction.guard_eq_ok.1 hguard
  refine ⟨hcheck, ?_⟩
  cases hexisting : job.dedupeKey.bind outbox.withKey with
  | some existing =>
    rw [hexisting] at h
    obtain ⟨-, rfl⟩ := Transaction.pure_eq_ok.1 h
    exact .inl ⟨existing, rfl, rfl⟩
  | none =>
    rw [hexisting] at h
    obtain ⟨_, mid, hwrite, h⟩ := Transaction.bind_eq_ok.1 h
    obtain rfl := Transaction.write_eq_ok.1 hwrite
    obtain ⟨-, rfl⟩ := Transaction.pure_eq_ok.1 h
    exact .inr ⟨rfl, rfl⟩

/-- The two calls that settle a job touch the row that is leased to the caller, and end its
lease. -/
theorem released_cases {id : Nat} {worker : Text} {settle : OutboxRow → OutboxRow}
    (row : OutboxRow) :
    row.released id worker settle = row ∨ row.leasedBy id worker = true ∧
      row.released id worker settle = { settle row with id := row.id } := by
  by_cases h : row.leasedBy id worker = true
  · exact .inr ⟨h, if_pos h⟩
  · exact .inl (if_neg h)

/-! ## One call -/

/-- The claim a call is issued under. -/
def OutboxCall.issuedUnder : OutboxCall → Option Claim
  | .complete issued _ | .fail issued _ _ _ => some issued
  | _ => none

/-- The job can be given to a worker: it is pending, or its lease has expired. -/
def OutboxRow.Free (nowMs : Int) (row : OutboxRow) : Prop :=
  row.state = .pending ∨
    ∃ owner expires, row.state = .processing owner expires ∧ expires ≤ nowMs

/-- The lease of a job ends, and the job waits only with attempts left. -/
structure OutboxRow.Ends (row row' : OutboxRow) : Prop where
  id : row'.id = row.id
  attempts : row'.attempts = row.attempts
  maxAttempts : row'.maxAttempts = row.maxAttempts
  unleased : row'.state.leaseOwner = none
  pending : row'.state = .pending → row.attempts < row.maxAttempts

/-- What a call can do to a job, and the claims of it that it grants. -/
inductive JobMove (call : OutboxCall) (row : OutboxRow) : OutboxRow → List Claim → Prop
  | stay : JobMove call row row []
  | expire {worker : Text} {nowMs leaseMs : Int} {limit : Nat} {row' : OutboxRow}
      (hcall : call = .claim worker nowMs leaseMs limit)
      (hleased : row.state.finished = false) (hends : row.Ends row') : JobMove call row row' []
  | grant {worker : Text} {nowMs leaseMs : Int} {limit : Nat} {old : OutboxRow}
      {leaseExpires : Int} (hcall : call = .claim worker nowMs leaseMs limit)
      (hfree : row.Free nowMs) (hid : old.id = row.id) (hattempts : old.attempts = row.attempts)
      (hmax : old.maxAttempts = row.maxAttempts) (hbelow : row.attempts < row.maxAttempts) :
      JobMove call row (old.claimed worker leaseExpires nowMs)
        [⟨row.id, row.attempts + 1, worker⟩]
  | settle {claim : Claim} {row' : OutboxRow} (hissued : call.issuedUnder = some claim)
      (hjob : row.id = claim.job) (hleased : row.state.leaseOwner = some claim.worker)
      (hends : row.Ends row') : JobMove call row row' []

/-- A step of the machine: every job moves, jobs are added, and claims are granted. -/
structure Workers.Step (call : OutboxCall) (w w' : Workers) (move : OutboxRow → OutboxRow)
    (added : List OutboxRow) (new : List Claim) : Prop where
  rows : w'.outbox.rows = w.outbox.rows.map move ++ added
  claims : w'.claims = w.claims ++ new
  moves : ∀ row ∈ w.outbox.rows,
    JobMove call row (move row) (new.filter fun claim => claim.job = row.id)
  added : ∀ row ∈ added, row.state = .pending ∧ row.attempts = 0 ∧ 0 < row.maxAttempts ∧
    ∀ old ∈ w.outbox.rows, old.id ≠ row.id
  known : ∀ claim ∈ new, ∃ row ∈ w.outbox.rows, row.id = claim.job

theorem Workers.Step.refl (call : OutboxCall) (w : Workers) : Step call w w id [] [] where
  rows := by simp
  claims := by simp
  moves _ _ := .stay
  added row hrow := by cases hrow
  known claim hclaim := by cases hclaim

/-- A worker is given the jobs it takes. -/
theorem job_mem_of_granted {ids : List Nat} (h : List.Forall₂ (fun id (job : OutboxJob) => ∃ row,
      outbox.find? id = some row ∧ job.id = id ∧ job.attempts = row.attempts) ids jobs)
    {claim : Claim} (hclaim : claim ∈ Workers.granted worker jobs) : claim.job ∈ ids := by
  induction h with
  | nil => cases hclaim
  | cons hjob _ ih =>
    obtain ⟨_, -, hid, -⟩ := hjob
    rcases List.mem_cons.1 hclaim with rfl | hclaim
    · exact hid ▸ List.mem_cons_self
    · exact List.mem_cons_of_mem _ (ih hclaim)

/-- The claims a worker is given are one for each job it takes. -/
theorem granted_filter {worker : Text} {outbox : Outbox} {ids : List Nat} {jobs : List OutboxJob}
    (h : List.Forall₂ (fun id (job : OutboxJob) => ∃ row, outbox.find? id = some row ∧
      job.id = id ∧ job.attempts = row.attempts) ids jobs)
    (hnodup : ids.Nodup) {row : OutboxRow} (hrow : row ∈ outbox.rows) :
    (Workers.granted worker jobs).filter (fun claim => claim.job = row.id) =
      if row.id ∈ ids then [⟨row.id, row.attempts, worker⟩] else [] := by
  induction h with
  | nil => rfl
  | @cons id job ids jobs hjob hrest ih =>
    obtain ⟨hfresh, hnodup⟩ := List.nodup_cons.1 hnodup
    obtain ⟨found, hfound, hid, hattempts⟩ := hjob
    have htail := ih hnodup
    unfold Workers.granted at htail ⊢
    rw [List.map_cons, List.filter_cons, htail]
    by_cases heq : id = row.id
    · subst heq
      obtain rfl : row = found := Option.some.inj ((Rows.find?_of_mem hrow).symm.trans hfound)
      simp [hid, hattempts, hfresh]
    · simp [hid, heq, Ne.symm heq]

/-- The jobs that are claimed wait, with attempts left. -/
theorem claimable_of_mem_claimIds (hrow : row ∈ outbox.rows)
    (h : row.id ∈ claimIds outbox nowMs limit) :
    row.state = .pending ∧ row.attempts < row.maxAttempts := by
  obtain ⟨other, hother, hid, hclaimable⟩ := mem_claimIds h
  obtain rfl := outbox.eq_of_key_eq hother hrow hid
  simp only [OutboxRow.claimable, Bool.and_eq_true, decide_eq_true_eq] at hclaimable
  exact ⟨hclaimable.1.1, hclaimable.2⟩

/-- A claim that goes through. -/
theorem claimJobs_step {leaseMs : Int} {w : Workers}
    (h : claimJobs codec worker nowMs leaseMs limit w.outbox = .ok (jobs, outbox')) :
    ∃ move, Workers.Step (.claim worker nowMs leaseMs limit) w
      ⟨outbox', w.claims ++ Workers.granted worker jobs⟩ move []
      (Workers.granted worker jobs) := by
  obtain ⟨houtbox, hjobs⟩ := claimJobs_eq_ok h
  generalize hids : claimIds (recoverLeases nowMs w.outbox) nowMs limit = ids at houtbox hjobs
  have hnodup : ids.Nodup := hids ▸ claimIds_nodup _ _ _
  have hrows : outbox'.rows = w.outbox.rows.map fun row =>
      if (row.recovered nowMs).id ∈ ids ∧ (row.recovered nowMs).state = .pending then
        (row.recovered nowMs).claimed worker (i64SaturatingAdd nowMs leaseMs) nowMs
      else row.recovered nowMs := by
    rw [houtbox, leaseJobs_rows]
    exact List.map_map
  refine ⟨_, hrows.trans (List.append_nil _).symm, rfl, ?_, (fun _ hrow => by cases hrow), ?_⟩
  · intro row hrow
    have hold : row.recovered nowMs ∈ (recoverLeases nowMs w.outbox).rows :=
      mem_recoverLeases.2 ⟨row, hrow, rfl⟩
    have hnew : (if (row.recovered nowMs).id ∈ ids ∧ (row.recovered nowMs).state = .pending then
        (row.recovered nowMs).claimed worker (i64SaturatingAdd nowMs leaseMs) nowMs
        else row.recovered nowMs) ∈ outbox'.rows := by
      rw [hrows]
      exact List.mem_map_of_mem hrow
    have hfilter := @granted_filter worker outbox' ids jobs hjobs hnodup _ hnew
    by_cases hmem : (row.recovered nowMs).id ∈ ids
    · have hclaimable := claimable_of_mem_claimIds hold (hids ▸ hmem)
      rw [if_pos ⟨hmem, hclaimable.1⟩] at hfilter ⊢
      rw [row.recovered_id nowMs] at hmem
      have hgranted : (Workers.granted worker jobs).filter (fun claim => claim.job = row.id) =
          [⟨row.id, (row.recovered nowMs).attempts + 1, worker⟩] := by
        simpa [OutboxRow.claimed, row.recovered_id nowMs, hmem] using hfilter
      rw [hgranted]
      rcases row.recovered_cases nowMs with hsame | ⟨hexpired, hid, hattempts, hmax, -⟩
      · rw [hsame] at hclaimable ⊢
        exact .grant rfl (.inl hclaimable.1) rfl rfl rfl hclaimable.2
      · rw [hattempts, hmax] at hclaimable
        rw [hattempts]
        exact .grant rfl (.inr hexpired) hid hattempts hmax hclaimable.2
    · rw [if_neg fun hboth => hmem hboth.1] at hfilter ⊢
      rw [if_neg hmem, row.recovered_id nowMs] at hfilter
      rw [hfilter]
      rcases row.recovered_cases nowMs with hsame | ⟨hexpired, hid, hattempts, hmax, hstate⟩
      · rw [hsame]
        exact .stay
      · obtain ⟨owner, expires, hleased, -⟩ := hexpired
        refine .expire rfl (by rw [hleased]; rfl) ⟨hid, hattempts, hmax, ?_, ?_⟩
        · rw [hstate]
          by_cases hlast : row.maxAttempts ≤ row.attempts <;> simp [hlast, JobState.leaseOwner]
        · intro hpending
          rw [hstate] at hpending
          by_contra hlast
          rw [if_pos (Nat.le_of_not_lt hlast)] at hpending
          cases hpending
  · intro claim hclaim
    obtain ⟨row, hrow, hid, -⟩ := mem_claimIds (hids ▸ job_mem_of_granted hjobs hclaim)
    obtain ⟨old, hold, rfl⟩ := mem_recoverLeases.1 hrow
    exact ⟨old, hold, (old.recovered_id nowMs).symm.trans hid⟩

/-- A job that is enqueued is new, or changes nothing. -/
theorem enqueueJob_step {job : OutboxJobInput} {w : Workers} {id : Nat}
    (h : enqueueJob codec job nowMs w.outbox = .ok (id, outbox')) :
    ∃ added, Workers.Step (.enqueue job nowMs) w { w with outbox := outbox' } (fun row => row)
      added [] := by
  obtain ⟨_, -, h⟩ := Transaction.lift_bind_eq_ok.1 h
  obtain ⟨hcheck, hcases⟩ := enqueueJobTx_eq_ok h
  rcases hcases with ⟨_, -, rfl⟩ | ⟨-, hrows⟩
  · exact ⟨[], .refl _ w⟩
  · simp only [OutboxRow.check, Bool.and_eq_true, decide_eq_true_eq] at hcheck
    refine ⟨[job.row codec nowMs w.outbox.nextId], ?_, (List.append_nil _).symm,
      fun _ _ => .stay, ?_, fun _ hclaim => by cases hclaim⟩
    · rw [List.map_id']
      exact hrows
    · intro row hrow
      obtain rfl := List.mem_singleton.1 hrow
      exact ⟨rfl, rfl, hcheck.2, fun old hold => (Outbox.lt_nextId hold).ne⟩

variable {issued : Claim} {call : OutboxCall}

/-- A job is settled under the lease of the worker that calls. -/
theorem released_step {settle : OutboxRow → OutboxRow} {w : Workers}
    (hissued : call.issuedUnder = some issued) (houtbox : outbox' = w.outbox.update
      (OutboxRow.released issued.job issued.worker settle) (OutboxRow.released_id issued.job
      issued.worker settle)) (hends : ∀ row ∈ w.outbox.rows, row.leasedBy issued.job
      issued.worker = true → row.Ends { settle row with id := row.id }) :
    Workers.Step call w { w with outbox := outbox' }
      (OutboxRow.released issued.job issued.worker settle) [] [] := by
  refine ⟨?_, (List.append_nil _).symm, ?_, (fun _ hrow => by cases hrow),
    fun _ hclaim => by cases hclaim⟩
  · rw [houtbox]
    exact (List.append_nil _).symm
  · intro row hrow
    rcases @released_cases issued.job issued.worker settle row with hsame | ⟨hleased, hsettled⟩
    · rw [hsame]
      exact .stay
    · rw [hsettled]
      have hboth := hleased
      simp only [OutboxRow.leasedBy, Bool.and_eq_true, decide_eq_true_eq] at hboth
      exact .settle hissued hboth.1 hboth.2 (hends row hrow hleased)

theorem completeJob_step {w : Workers} {completed : Bool}
    (h : completeJob issued.job issued.worker nowMs w.outbox = .ok (completed, outbox')) :
    ∃ move, Workers.Step (.complete issued nowMs) w { w with outbox := outbox' } move [] [] := by
  rw [completeJob, Transaction.reading_eq] at h
  obtain ⟨_, updated, hwrite, h⟩ := Transaction.bind_eq_ok.1 h
  obtain ⟨-, rfl⟩ := Transaction.pure_eq_ok.1 h
  refine ⟨_, released_step rfl (Transaction.write_eq_ok.1 hwrite).symm ?_⟩
  intro row _ _
  exact ⟨rfl, rfl, rfl, rfl, fun hpending => by cases hpending⟩

theorem failJob_step {retryAtMs : Int} {error : Text} {w : Workers} {status : OutboxStatus}
    (h : failJob issued.job issued.worker nowMs retryAtMs error w.outbox = .ok (status, outbox')) :
    ∃ move, Workers.Step (.fail issued nowMs retryAtMs error) w { w with outbox := outbox' } move
      [] [] := by
  rw [failJob, Transaction.reading_eq] at h
  obtain ⟨row, hfound, h⟩ := Transaction.lift_bind_eq_ok.1 h
  rw [okOr_eq_ok] at hfound
  obtain ⟨_, updated, hwrite, h⟩ := Transaction.bind_eq_ok.1 h
  obtain ⟨-, rfl⟩ := Transaction.pure_eq_ok.1 h
  refine ⟨_, released_step rfl (Transaction.write_eq_ok.1 hwrite).symm ?_⟩
  intro other hother hleased
  -- The row that was read is the only one under that identifier.
  have hsame : other = row := by
    apply w.outbox.eq_of_key_eq hother (List.mem_of_find?_eq_some hfound)
    have hrow := List.find?_some hfound
    simp only [OutboxRow.leasedBy, Bool.and_eq_true, decide_eq_true_eq] at hleased hrow
    exact hleased.1.trans hrow.1.symm
  subst hsame
  by_cases hlast : other.maxAttempts ≤ other.attempts
  · simp only [hlast, if_true]
    exact ⟨rfl, rfl, rfl, rfl, fun hpending => by cases hpending⟩
  · simp only [hlast, if_false]
    exact ⟨rfl, rfl, rfl, rfl, fun _ => Nat.lt_of_not_le hlast⟩

/-- **What a call does.** A call that fails does nothing. -/
theorem Workers.next_step (codec : Codec) (call : OutboxCall) (w : Workers) :
    ∃ move added new, Step call w (w.next codec call) move added new := by
  cases call with
  | enqueue job nowMs =>
    simp only [next]
    cases h : enqueueJob codec job nowMs w.outbox with
    | error error =>
      rw [Transaction.commit_of_error h]
      exact ⟨_, _, _, .refl _ w⟩
    | ok out =>
      rw [Transaction.commit_of_ok h]
      obtain ⟨added, hstep⟩ := enqueueJob_step h
      exact ⟨_, _, _, hstep⟩
  | claim worker nowMs leaseMs limit =>
    simp only [next]
    cases h : MemoryStore.claimJobs codec worker nowMs leaseMs limit w.outbox with
    | error error =>
      rw [Transaction.commit_of_error h]
      exact ⟨_, _, _, .refl _ w⟩
    | ok out =>
      rw [Transaction.commit_of_ok h]
      obtain ⟨_, -, h⟩ := Transaction.lift_bind_eq_ok.1 h
      obtain ⟨_, -, h⟩ := Transaction.lift_bind_eq_ok.1 h
      obtain ⟨_, -, h⟩ := Transaction.lift_bind_eq_ok.1 h
      obtain ⟨move, hstep⟩ := claimJobs_step h
      exact ⟨_, _, _, hstep⟩
  | complete issued nowMs =>
    simp only [next]
    cases h : completeJob issued.job issued.worker nowMs w.outbox with
    | error error =>
      rw [Transaction.commit_of_error h]
      exact ⟨_, _, _, .refl _ w⟩
    | ok out =>
      rw [Transaction.commit_of_ok h]
      obtain ⟨move, hstep⟩ := completeJob_step h
      exact ⟨_, _, _, hstep⟩
  | fail issued nowMs retryAtMs error =>
    simp only [next]
    cases h : MemoryStore.failJob issued.job issued.worker nowMs retryAtMs error w.outbox with
    | error error =>
      rw [Transaction.commit_of_error h]
      exact ⟨_, _, _, .refl _ w⟩
    | ok out =>
      rw [Transaction.commit_of_ok h]
      obtain ⟨_, -, h⟩ := Transaction.lift_bind_eq_ok.1 h
      obtain ⟨move, hstep⟩ := failJob_step h
      exact ⟨_, _, _, hstep⟩

/-! ## Jobs and their claims -/

/-- What holds of a job, given the claims that were granted. -/
structure OutboxRow.Sound (claims : List Claim) (row : OutboxRow) : Prop where
  bounded : row.attempts ≤ row.maxAttempts
  waiting : row.state = .pending → row.attempts < row.maxAttempts
  /-- The claims of the job are numbered up to its attempts. -/
  numbered : (claims.filter fun claim => claim.job = row.id).map Claim.attempt =
    List.range' 1 row.attempts
  /-- A lease is the last claim of the job. -/
  leased : ∀ worker, row.state.leaseOwner = some worker → ⟨row.id, row.attempts, worker⟩ ∈ claims

variable {row' : OutboxRow}

theorem OutboxRow.Ends.sound {claims granted : List Claim} (h : row.Ends row')
    (hsound : row.Sound claims) (hnone : granted.filter (fun claim => claim.job = row.id) = []) :
    row'.Sound (claims ++ granted) := by
  refine ⟨?_, ?_, ?_, ?_⟩
  · rw [h.attempts, h.maxAttempts]
    exact hsound.bounded
  · intro hpending
    rw [h.attempts, h.maxAttempts]
    exact h.pending hpending
  · rw [h.id, h.attempts, List.filter_append, hnone, List.append_nil]
    exact hsound.numbered
  · intro worker hworker
    rw [h.unleased] at hworker
    cases hworker

/-- **A move keeps a job sound.** -/
theorem JobMove.sound {claims granted : List Claim}
    (h : JobMove call row row' (granted.filter fun claim => claim.job = row.id))
    (hsound : row.Sound claims) : row'.Sound (claims ++ granted) := by
  generalize hnew : granted.filter (fun claim => claim.job = row.id) = new at h
  cases h with
  | stay =>
    refine ⟨hsound.bounded, hsound.waiting, ?_, ?_⟩
    · rw [List.filter_append, hnew, List.append_nil]
      exact hsound.numbered
    · intro worker hworker
      exact List.mem_append_left _ (hsound.leased worker hworker)
  | expire hcall hleased hends => exact hends.sound hsound hnew
  | settle hissued hjob hleased hends => exact hends.sound hsound hnew
  | @grant worker nowMs leaseMs limit old leaseExpires hcall hfree hid hattempts hmax hbelow =>
    refine ⟨?_, ?_, ?_, ?_⟩
    · show old.attempts + 1 ≤ old.maxAttempts
      rw [hattempts, hmax]
      exact hbelow
    · intro hpending
      cases hpending
    · show ((claims ++ granted).filter fun claim => claim.job = old.id).map Claim.attempt =
        List.range' 1 (old.attempts + 1)
      rw [hid, hattempts, List.filter_append, hnew, List.map_append, hsound.numbered,
        List.range'_concat]
      simp [Nat.add_comm]
    · intro owner howner
      cases howner
      have hmem : (⟨row.id, row.attempts + 1, worker⟩ : Claim) ∈ granted :=
        List.mem_of_mem_filter (hnew ▸ List.mem_singleton_self _)
      show (⟨old.id, old.attempts + 1, worker⟩ : Claim) ∈ claims ++ granted
      rw [hid, hattempts]
      exact List.mem_append_right _ hmem

/-- What holds between calls. -/
structure Workers.Sound (w : Workers) : Prop where
  jobs : ∀ row ∈ w.outbox.rows, row.Sound w.claims
  known : ∀ claim ∈ w.claims, ∃ row ∈ w.outbox.rows, row.id = claim.job

theorem JobMove.id_eq {new : List Claim} (h : JobMove call row row' new) : row'.id = row.id := by
  cases h with
  | stay => rfl
  | expire hcall hleased hends => exact hends.id
  | grant hcall hfree hid hattempts hmax hbelow => exact hid
  | settle hissued hjob hleased hends => exact hends.id

section Steps

variable {call : OutboxCall} {w w' : Workers} {move : OutboxRow → OutboxRow}
  {added : List OutboxRow} {new : List Claim}

theorem Workers.Step.mem_move (h : Step call w w' move added new) (hrow : row ∈ w.outbox.rows) :
    move row ∈ w'.outbox.rows := by
  rw [h.rows]
  exact List.mem_append_left _ (List.mem_map_of_mem hrow)

theorem Workers.Sound.step (hw : w.Sound) (h : Step call w w' move added new) : w'.Sound := by
  constructor
  · intro row hrow
    rw [h.rows, List.mem_append] at hrow
    rw [h.claims]
    rcases hrow with hmoved | hadded
    · obtain ⟨old, hold, rfl⟩ := List.mem_map.1 hmoved
      exact (h.moves old hold).sound (hw.jobs old hold)
    · obtain ⟨hpending, hattempts, hmax, hfresh⟩ := h.added row hadded
      have hnone : (w.claims ++ new).filter (fun claim => claim.job = row.id) = [] := by
        rw [List.filter_eq_nil_iff]
        intro claim hclaim hjob
        have hknown : ∃ old ∈ w.outbox.rows, old.id = claim.job :=
          (List.mem_append.1 hclaim).elim (hw.known claim) (h.known claim)
        obtain ⟨old, hold, hid⟩ := hknown
        exact hfresh old hold (hid.trans (of_decide_eq_true hjob))
      refine ⟨?_, ?_, ?_, ?_⟩
      · rw [hattempts]
        exact Nat.zero_le _
      · intro _
        rw [hattempts]
        exact hmax
      · rw [hnone, hattempts]
        rfl
      · intro worker hworker
        rw [hpending] at hworker
        cases hworker
  · intro claim hclaim
    rw [h.claims, List.mem_append] at hclaim
    have hknown : ∃ old ∈ w.outbox.rows, old.id = claim.job :=
      hclaim.elim (hw.known claim) (h.known claim)
    obtain ⟨old, hold, hid⟩ := hknown
    exact ⟨move old, h.mem_move hold, (h.moves old hold).id_eq.trans hid⟩

end Steps

/-- **What every run keeps.** -/
theorem Workers.run_sound (codec : Codec) (calls : List OutboxCall) :
    (runFrom (Workers.next codec) calls .start).Sound := by
  apply inv_runFrom Workers.Sound
  · intro w call hw
    obtain ⟨move, added, new, hstep⟩ := w.next_step codec call
    exact hw.step hstep
  · exact ⟨fun row hrow => (by cases hrow), fun claim hclaim => by cases hclaim⟩

/-- What is promised of one call. -/
structure Workers.CallSound (codec : Codec) (w : Workers) (call : OutboxCall) : Prop where
  /-- A finished job stays as it is. -/
  finished : ∀ row ∈ w.outbox.rows, row.state.finished = true →
    row ∈ (w.next codec call).outbox.rows
  /-- A claim is granted of a job that is pending or whose lease has expired. -/
  granted : ∃ new, (w.next codec call).claims = w.claims ++ new ∧ ∀ claim ∈ new,
    ∃ nowMs leaseMs limit, call = .claim claim.worker nowMs leaseMs limit ∧
      ∃ row ∈ w.outbox.rows, row.id = claim.job ∧ row.Free nowMs ∧ row.attempts < row.maxAttempts
  /-- A completion or a failure changes only the job it names, while that is held by a claim of the
  calling worker, and ends the claim. -/
  settled : ∀ issued, call.issuedUnder = some issued → ∀ row ∈ w.outbox.rows,
    row ∈ (w.next codec call).outbox.rows ∨
      row.id = issued.job ∧ w.Held ⟨row.id, row.attempts, issued.worker⟩ ∧
        ∀ claim, (w.next codec call).Held claim → claim.job ≠ row.id

theorem Workers.Sound.callSound {w : Workers} (hw : w.Sound) (call : OutboxCall) :
    w.CallSound codec call := by
  obtain ⟨move, added, new, hstep⟩ := w.next_step codec call
  refine ⟨?_, ⟨new, hstep.claims, ?_⟩, ?_⟩
  · intro row hrow hfinished
    have hmem := hstep.mem_move hrow
    have hmove := hstep.moves row hrow
    generalize move row = row' at hmem hmove
    generalize new.filter (fun claim => claim.job = row.id) = granted at hmove
    cases hmove with
    | stay => exact hmem
    | expire hcall hleased hends => simp [hfinished] at hleased
    | grant hcall hfree hid hattempts hmax hbelow =>
      rcases hfree with hpending | ⟨owner, expires, hleased, -⟩
      · simp [hpending, JobState.finished] at hfinished
      · simp [hleased, JobState.finished] at hfinished
    | settle hissued hjob hleased hends =>
      cases hstate : row.state <;> simp [hstate, JobState.finished, JobState.leaseOwner] at *
  · intro claim hclaim
    obtain ⟨row, hrow, hid⟩ := hstep.known claim hclaim
    have hfiltered : claim ∈ new.filter fun claim => claim.job = row.id :=
      List.mem_filter.2 ⟨hclaim, decide_eq_true hid.symm⟩
    have hmove := hstep.moves row hrow
    generalize new.filter (fun claim => claim.job = row.id) = granted at hfiltered hmove
    generalize move row = row' at hmove
    cases hmove with
    | grant hcall hfree hold hattempts hmax hbelow =>
      obtain rfl := List.mem_singleton.1 hfiltered
      exact ⟨_, _, _, hcall, row, hrow, hid, hfree, hbelow⟩
    | _ => cases hfiltered
  · intro issued hissued row hrow
    have hmem := hstep.mem_move hrow
    have hmove := hstep.moves row hrow
    generalize move row = row' at hmem hmove
    generalize new.filter (fun claim => claim.job = row.id) = granted at hmove
    cases hmove with
    | stay => exact .inl hmem
    | expire hcall hleased hends =>
      subst hcall
      cases hissued
    | grant hcall hfree hid hattempts hmax hbelow =>
      subst hcall
      cases hissued
    | settle hissued' hjob hleased hends =>
      obtain rfl := Option.some.inj (hissued.symm.trans hissued')
      refine .inr ⟨hjob, ⟨(hw.jobs row hrow).leased _ hleased, row, hrow, rfl, rfl, hleased⟩, ?_⟩
      intro claim hheld heq
      obtain ⟨other, hother, hid, -, howner⟩ := hheld.leased
      obtain rfl := (w.next codec call).outbox.eq_of_key_eq hother hmem
        (hid.trans (heq.trans hends.id.symm))
      rw [hends.unleased] at howner
      cases howner

/-- **The lease protocol.** In every run, every job is sound and is held by at most one claim, and
every call keeps its promise. -/
theorem outbox_protocol (codec : Codec) (calls : List OutboxCall) :
    (∀ row ∈ (runFrom (Workers.next codec) calls .start).outbox.rows,
        row.Sound (runFrom (Workers.next codec) calls .start).claims) ∧
      (∀ a b, (runFrom (Workers.next codec) calls .start).Held a →
        (runFrom (Workers.next codec) calls .start).Held b → a.job = b.job → a = b) ∧
      ∀ call, (runFrom (Workers.next codec) calls .start).CallSound codec call := by
  have hsound := Workers.run_sound codec calls
  exact ⟨hsound.jobs, fun a b ha hb => ha.unique hb, fun call => hsound.callSound call⟩

/-! ### A late completion -/

/-- A job is claimed twice under one worker name, the second time when the first lease has
expired. -/
def reclaimed : List OutboxCall :=
  [.enqueue ⟨"k".toList, none, .null, 0, 5, none⟩ 0, .claim "w".toList 0 100 1,
    .claim "w".toList 101 1000 1]

/-- **A completion issued under the first claim completes the job of the second.** -/
theorem late_complete :
    (runFrom (Workers.next (.known (fun _ => []) [] [.null] [])) reclaimed .start).claims =
        [⟨1, 1, "w".toList⟩, ⟨1, 2, "w".toList⟩] ∧
      (runFrom (Workers.next (.known (fun _ => []) [] [.null] [])) reclaimed
        .start).outbox.rows.map (fun row => (row.attempts, row.state)) =
        [(2, .processing "w".toList 1101)] ∧
      (runFrom (Workers.next (.known (fun _ => []) [] [.null] []))
        (reclaimed ++ [.complete ⟨1, 1, "w".toList⟩ 102]) .start).outbox.rows.map
          (fun row => (row.attempts, row.state)) = [(2, .completed)] := by
  decide +kernel

end NpcRuntime.Memory
