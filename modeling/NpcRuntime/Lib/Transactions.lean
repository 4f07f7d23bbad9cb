import NpcRuntime.Lib.Result

/-!
# Transactions

A transaction over states `σ` yields a result and a new state, or an error, and then its writes are
lost: `StateT σ (Except ε)`. `commit` runs one against a store.

* `bind_eq_ok` and its companions take a transaction that went through apart.
* `Ensures pre t post` is about the transactions that go through; `commit_keeps` turns what a
  transaction keeps into what the store keeps, whether it goes through or not.
* `zoom` runs a transaction over a part of the state; the rest is out of its reach.
-/

namespace NpcRuntime

abbrev Transaction (σ ε α : Type) := StateT σ (Except ε) α

namespace Transaction

variable {σ τ ε α β : Type}

/-- Run a transaction against a store: an error leaves the store as it was. -/
def commit (t : Transaction σ ε α) (s : σ) : Except ε α × σ :=
  match t s with
  | .ok (a, s') => (.ok a, s')
  | .error e => (.error e, s)

/-- `if !condition { return Err(error) }`. -/
def guard (condition : Bool) (error : ε) : Transaction σ ε Unit := fun s =>
  if condition then .ok ((), s) else .error error

/-- A computation that does not read the state. -/
def lift (x : Except ε α) : Transaction σ ε α := fun s => x.map (·, s)

/-- Read the state and go on. -/
def reading (f : σ → Transaction σ ε α) : Transaction σ ε α := fun s => f s s

def write (f : σ → σ) : Transaction σ ε Unit := fun s => .ok ((), f s)

/-- A transaction over a part of the state. -/
def zoom (view : σ → τ) (update : σ → τ → σ) (t : Transaction τ ε α) : Transaction σ ε α := fun s =>
  (t (view s)).map fun out => (out.1, update s out.2)

/-! ## Transactions that go through -/

variable {f : α → Transaction σ ε β} {s : σ} {out : β × σ} {t : Transaction σ ε α}

theorem bind_eq_ok : (t >>= f) s = .ok out ↔ ∃ a s', t s = .ok (a, s') ∧ f a s' = .ok out := by
  show (t s >>= fun p => f p.1 p.2) = .ok out ↔ _
  rw [NpcRuntime.bind_eq_ok, Prod.exists]

variable {s' : σ} {a : α}

theorem bind_of_ok (h : t s = .ok (a, s')) : (t >>= f) s = f a s' := by
  show (t s >>= fun p => f p.1 p.2) = _
  rw [h]
  rfl

variable {e : ε}

theorem bind_of_error (h : t s = .error e) : (t >>= f) s = .error e := by
  show (t s >>= fun p => f p.1 p.2) = _
  rw [h]
  rfl

theorem pure_eq_ok {b : α} : (pure a : Transaction σ ε α) s = .ok (b, s') ↔ a = b ∧ s = s' := by
  show (Except.ok (a, s) : Except ε (α × σ)) = .ok (b, s') ↔ _
  simp

theorem guard_eq_ok {condition : Bool} {error : ε} {u : Unit} :
    guard condition error s = .ok (u, s') ↔ condition = true ∧ s = s' := by
  cases condition <;> simp [guard]

theorem lift_eq_ok {x : Except ε α} : lift x s = .ok (a, s') ↔ x = .ok a ∧ s = s' := by
  cases x <;> simp [lift, Except.map]

theorem reading_eq {f : σ → Transaction σ ε α} : reading f s = f s s := rfl

theorem write_eq_ok {f : σ → σ} {u : Unit} :
    (write f : Transaction σ ε Unit) s = .ok (u, s') ↔ f s = s' := by
  simp [write]

theorem zoom_eq_ok {view : σ → τ} {update : σ → τ → σ} {t : Transaction τ ε α} :
    zoom view update t s = .ok (a, s') ↔
      ∃ part, t (view s) = .ok (a, part) ∧ update s part = s' := by
  simp [zoom, map_eq_ok]

/-- A guard, then the rest. -/
theorem guard_bind_eq_ok {condition : Bool} {error : ε} {f : Unit → Transaction σ ε β} :
    (guard condition error >>= f) s = .ok out ↔ condition = true ∧ f () s = .ok out := by
  rw [bind_eq_ok]
  constructor
  · intro h
    obtain ⟨_, s', hguard, hrest⟩ := h
    obtain ⟨hcondition, rfl⟩ := guard_eq_ok.1 hguard
    exact ⟨hcondition, hrest⟩
  · intro h
    exact ⟨(), s, guard_eq_ok.2 ⟨h.1, rfl⟩, h.2⟩

theorem lift_bind_eq_ok {x : Except ε α} :
    (lift x >>= f) s = .ok out ↔ ∃ a, x = .ok a ∧ f a s = .ok out := by
  rw [bind_eq_ok]
  constructor
  · intro h
    obtain ⟨a, s', hlift, hrest⟩ := h
    obtain ⟨hx, rfl⟩ := lift_eq_ok.1 hlift
    exact ⟨a, hx, hrest⟩
  · intro h
    obtain ⟨a, hx, hrest⟩ := h
    exact ⟨a, s, lift_eq_ok.2 ⟨hx, rfl⟩, hrest⟩

/-- The first round of a loop that collects results, then the others. -/
theorem mapM_cons_eq_ok {l : List α} {out : List β × σ} :
    (a :: l).mapM f s = .ok out ↔
      ∃ b mid rest, f a s = .ok (b, mid) ∧ l.mapM f mid = .ok (rest, out.2) ∧
        out.1 = b :: rest := by
  rw [List.mapM_cons, bind_eq_ok]
  constructor
  · intro h
    obtain ⟨b, mid, hb, h⟩ := h
    obtain ⟨rest, last, hrest, h⟩ := bind_eq_ok.1 h
    obtain ⟨hout, rfl⟩ := pure_eq_ok.1 h
    exact ⟨b, mid, rest, hb, hrest, hout.symm⟩
  · intro h
    obtain ⟨b, mid, rest, hb, hrest, hout⟩ := h
    refine ⟨b, mid, hb, bind_eq_ok.2 ⟨rest, out.2, hrest, ?_⟩⟩
    rw [← hout]
    rfl

theorem write_bind {f : σ → σ} {g : Unit → Transaction σ ε β} :
    (write f >>= g) s = g () (f s) := rfl

theorem commit_of_ok (h : t s = .ok (a, s')) : t.commit s = (.ok a, s') := by
  simp [commit, h]

theorem commit_of_error (h : t s = .error e) : t.commit s = (.error e, s) := by
  simp [commit, h]

/-- **Atomicity.** A commit that reports a result has gone through. -/
theorem commit_eq_ok : t.commit s = (.ok a, s') ↔ t s = .ok (a, s') := by
  cases h : t s with
  | error e => simp [commit_of_error h]
  | ok out => simp [commit_of_ok h, Prod.ext_iff]

/-- **Atomicity.** A commit that reports an error has changed nothing. -/
theorem commit_eq_error : t.commit s = (.error e, s') ↔ t s = .error e ∧ s' = s := by
  cases h : t s with
  | error e => simp [commit_of_error h, eq_comm]
  | ok out => simp [commit_of_ok h]

/-- A commit over a part leaves the rest alone. -/
theorem commit_zoom {view : σ → τ} {update : σ → τ → σ} {t : Transaction τ ε α}
    (h : update s (view s) = s) :
    (zoom view update t).commit s = ((t.commit (view s)).1, update s (t.commit (view s)).2) := by
  cases ht : t (view s) with
  | error e =>
    have hzoom : zoom view update t s = .error e := by simp [zoom, ht, Except.map]
    rw [commit_of_error hzoom, commit_of_error ht, h]
  | ok out =>
    have hzoom : zoom view update t s = .ok (out.1, update s out.2) := by
      simp [zoom, ht, Except.map]
    rw [commit_of_ok hzoom, commit_of_ok ht]

/-! ## Rules -/

/-- Where the transaction goes through from `pre`, it ends in `post`. -/
def Ensures (pre : σ → Prop) (t : Transaction σ ε α) (post : α → σ → Prop) : Prop :=
  ∀ s a s', pre s → t s = .ok (a, s') → post a s'

section Rules

variable {pre : σ → Prop} {post : α → σ → Prop} {t : Transaction σ ε α}

theorem ensures_pure (a : α) (h : ∀ s, pre s → post a s) :
    Ensures pre (pure a : Transaction σ ε α) post := by
  intro s b s' hs ht
  obtain ⟨rfl, rfl⟩ := pure_eq_ok.1 ht
  exact h s hs

/-- **Sequence.** -/
theorem ensures_bind {last : β → σ → Prop} (h : Ensures pre t post)
    (hf : ∀ a, Ensures (post a) (f a) last) : Ensures pre (t >>= f) last := by
  intro s b s' hs ht
  obtain ⟨a, mid, hmid, hrest⟩ := bind_eq_ok.1 ht
  exact hf a mid b s' (h s a mid hs hmid) hrest

/-- The same where only the precondition is needed of the state that is read. -/
theorem ensures_reading_of {f : σ → Transaction σ ε α} (h : ∀ s, pre s → Ensures pre (f s) post) :
    Ensures pre (reading f) post := by
  intro s a s' hs ht
  exact h s hs s a s' hs ht

/-- **What a transaction keeps, the store keeps.** -/
theorem commit_keeps (inv : σ → Prop) (h : Ensures inv t fun _ => inv) (hs : inv s) :
    inv (t.commit s).2 := by
  cases ht : t s with
  | error e =>
    rw [commit_of_error ht]
    exact hs
  | ok out =>
    rw [commit_of_ok ht]
    exact h s out.1 out.2 hs ht

end Rules

end Transaction

end NpcRuntime
