import Mathlib.Data.List.Nodup
import Mathlib.Data.List.Basic

/-!
# Tables with a primary key

The rows of a table, in the order they were inserted, no two with the same key: `Rows key`. The
statements that change a table are insertions of a new key, updates that leave the key alone, and
deletions, so that the key stays one by construction.

A row is found by its key (`find?_eq_some`), and each statement says what is found after it.
-/

namespace NpcRuntime

variable {α κ : Type}

structure Rows (key : α → κ) where
  rows : List α
  nodup : (rows.map key).Nodup

namespace Rows

variable {key : α → κ}

variable {t t' : Rows key}

theorem ext (h : t.rows = t'.rows) : t = t' := by
  cases t
  cases t'
  congr

/-- One more than the greatest number of a list is not in it. -/
theorem lt_foldr_max_succ {l : List Nat} {k : Nat} (h : k ∈ l) : k < l.foldr max 0 + 1 := by
  induction l with
  | nil => cases h
  | cons n l ih =>
    rw [List.foldr_cons]
    rcases List.mem_cons.1 h with rfl | h
    · exact Nat.lt_succ_of_le (Nat.le_max_left _ _)
    · exact Nat.lt_of_lt_of_le (ih h) (Nat.succ_le_succ (Nat.le_max_right _ _))

instance [DecidableEq α] : DecidableEq (Rows key) := fun t t' =>
  decidable_of_iff (t.rows = t'.rows) ⟨ext, congrArg rows⟩

/-- The empty table. -/
def empty (key : α → κ) : Rows key := ⟨[], List.nodup_nil⟩

variable {r : α}

/-- Rows with the same key are the same row. -/
theorem eq_of_key_eq (t : Rows key) {r' : α} (hr : r ∈ t.rows) (hr' : r' ∈ t.rows)
    (h : key r = key r') : r = r' :=
  List.inj_on_of_nodup_map t.nodup hr hr' h

/-- What holds of a row with this key holds of the row that has it. -/
theorem any_key_eq [DecidableEq κ] (t : Rows key) (hr : r ∈ t.rows) (p : α → Bool) :
    (t.rows.any fun other => decide (key other = key r) && p other) = p r := by
  rw [Bool.eq_iff_iff, List.any_eq_true]
  simp only [Bool.and_eq_true, decide_eq_true_eq]
  constructor
  · intro hany
    obtain ⟨other, hother, hkey, hp⟩ := hany
    rwa [← t.eq_of_key_eq hother hr hkey]
  · intro hp
    exact ⟨r, hr, rfl, hp⟩

/-- `DELETE … WHERE p`. -/
def delete (t : Rows key) (p : α → Bool) : Rows key :=
  ⟨t.rows.filter fun r => !p r, t.nodup.sublist (List.filter_sublist.map key)⟩

/-- `UPDATE … SET f`, where `f` leaves the key alone. -/
def update (t : Rows key) (f : α → α) (hf : ∀ r, key (f r) = key r) : Rows key where
  rows := t.rows.map f
  nodup := by
    have hkeys : (t.rows.map f).map key = t.rows.map key := by
      rw [List.map_map]
      exact List.map_congr_left fun r _ => hf r
    rw [hkeys]
    exact t.nodup

theorem mem_delete {p : α → Bool} : r ∈ (t.delete p).rows ↔ r ∈ t.rows ∧ p r = false := by
  simp [delete]

theorem mem_update {f : α → α} {hf : ∀ r, key (f r) = key r} :
    r ∈ (t.update f hf).rows ↔ ∃ old ∈ t.rows, f old = r := by
  simp [update]

variable [DecidableEq κ]

/-- The row with a key. -/
def find? (t : Rows key) (k : κ) : Option α := t.rows.find? fun r => key r = k

variable {k : κ}

theorem find?_eq_some : t.find? k = some r ↔ r ∈ t.rows ∧ key r = k := by
  constructor
  · intro h
    exact ⟨List.mem_of_find?_eq_some h, by simpa using List.find?_some h⟩
  · intro h
    obtain ⟨hr, rfl⟩ := h
    cases hfind : t.find? (key r) with
    | none => simpa using List.find?_eq_none.1 hfind r hr
    | some other =>
      have hkey : key other = key r := by simpa using List.find?_some hfind
      exact congrArg some (t.eq_of_key_eq (List.mem_of_find?_eq_some hfind) hr hkey)

theorem find?_eq_none : t.find? k = none ↔ ∀ r ∈ t.rows, key r ≠ k := by
  simp [find?]

theorem find?_of_mem (h : r ∈ t.rows) : t.find? (key r) = some r :=
  find?_eq_some.2 ⟨h, rfl⟩

/-- What is found stays found when rows are appended. -/
theorem find?_extends (h : t.rows <+: t'.rows) (hr : t.find? k = some r) : t'.find? k = some r := by
  obtain ⟨hmem, hkey⟩ := find?_eq_some.1 hr
  exact find?_eq_some.2 ⟨h.subset hmem, hkey⟩

/-- `INSERT` of a key that is not there. -/
def insert (t : Rows key) (r : α) (h : t.find? (key r) = none) : Rows key where
  rows := t.rows ++ [r]
  nodup := by
    rw [List.map_append, List.nodup_append]
    refine ⟨t.nodup, by simp, ?_⟩
    intro k hk k' hk' heq
    obtain ⟨old, hold, rfl⟩ := List.mem_map.1 hk
    rw [List.map_singleton, List.mem_singleton] at hk'
    exact find?_eq_none.1 h old hold (heq.trans hk')

/-- `INSERT`, which fails on a key that is there. -/
def insert? (t : Rows key) (r : α) : Option (Rows key) :=
  if h : t.find? (key r) = none then some (t.insert r h) else none

theorem insert?_eq_some :
    t.insert? r = some t' ↔ t.find? (key r) = none ∧ t'.rows = t.rows ++ [r] := by
  unfold insert?
  by_cases h : t.find? (key r) = none
  · rw [dif_pos h]
    constructor
    · intro heq
      cases heq
      exact ⟨h, rfl⟩
    · intro heq
      exact congrArg some (ext heq.2.symm)
  · rw [dif_neg h]
    constructor
    · intro heq
      cases heq
    · intro heq
      exact absurd heq.1 h

theorem rows_insert {h : t.find? (key r) = none} : (t.insert r h).rows = t.rows ++ [r] := rfl

theorem find?_delete (t : Rows key) (p : α → Bool) (k : κ) :
    (t.delete p).find? k = (t.find? k).filter fun r => !p r := by
  apply Option.ext
  intro r
  rw [find?_eq_some, mem_delete, Option.filter_eq_some_iff, find?_eq_some]
  simp [and_right_comm]

theorem find?_update (t : Rows key) (f : α → α) (hf : ∀ r, key (f r) = key r) (k : κ) :
    (t.update f hf).find? k = (t.find? k).map f := by
  apply Option.ext
  intro r
  rw [find?_eq_some, mem_update, Option.map_eq_some_iff]
  constructor
  · intro h
    obtain ⟨⟨old, hold, rfl⟩, rfl⟩ := h
    exact ⟨old, by rw [hf]; exact find?_of_mem hold, rfl⟩
  · intro h
    obtain ⟨old, hold, rfl⟩ := h
    obtain ⟨hmem, rfl⟩ := find?_eq_some.1 hold
    exact ⟨⟨old, hmem, rfl⟩, hf old⟩

theorem find?_insert? (h : t.insert? r = some t') (k : κ) :
    t'.find? k = if key r = k then some r else t.find? k := by
  obtain ⟨hfresh, hrows⟩ := insert?_eq_some.1 h
  apply Option.ext
  intro row
  rw [find?_eq_some, hrows, List.mem_append, List.mem_singleton]
  by_cases hk : key r = k
  · rw [if_pos hk]
    subst hk
    constructor
    · intro hrow
      obtain ⟨hold | rfl, hkey⟩ := hrow
      · exact absurd hkey (find?_eq_none.1 hfresh row hold)
      · rfl
    · intro heq
      cases heq
      exact ⟨.inr rfl, rfl⟩
  · rw [if_neg hk, find?_eq_some]
    constructor
    · intro hrow
      obtain ⟨hold | rfl, hkey⟩ := hrow
      · exact ⟨hold, hkey⟩
      · exact absurd hkey hk
    · intro hrow
      exact ⟨.inl hrow.1, hrow.2⟩

theorem find?_insert {t : Rows key} {r : α} (h : t.find? (key r) = none) (k : κ) :
    (t.insert r h).find? k = if key r = k then some r else t.find? k :=
  find?_insert? (dif_pos h) k

end Rows

end NpcRuntime
