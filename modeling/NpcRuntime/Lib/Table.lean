import Mathlib.Data.List.AList
import Mathlib.Data.List.Induction
import Mathlib.Data.List.Sort
import Mathlib.Algebra.BigOperators.Group.List.Basic
import Mathlib.Algebra.Ring.Nat
import Mathlib.Algebra.Order.Group.Nat

/-!
# Finite maps with totals

A hash map is an association list with distinct keys (`AList`), so that its values can be
counted and summed. This file adds to Mathlib's maps what an account kept next to a map needs:

* `mapVal` and `modify`: rewriting values in place (Rust's `iter_mut` and `get_mut`);
* `total f`: the sum of `f` over the values, and how insertion, removal and rewriting move it.
-/

namespace NpcRuntime

/-- A finite map from `κ` to `α`. -/
abbrev Table (κ α : Type*) := AList (fun _ : κ => α)

namespace Table

variable {κ α β : Type*}

/-- The values, in table order. -/
def values (t : Table κ α) : List α := t.entries.map Sigma.snd

/-- Rewrite every value in place. -/
def mapVal (g : κ → α → β) (t : Table κ α) : Table κ β :=
  ⟨t.entries.map (Sigma.map id g), t.nodupKeys.map₂ g t.entries⟩

/-- The sum of `f` over the values. -/
def total (f : α → Nat) (t : Table κ α) : Nat := (t.values.map f).sum

theorem values_mapVal (g : κ → α → β) (t : Table κ α) :
    (mapVal g t).values = t.entries.map fun e => g e.1 e.2 := by
  simp [values, mapVal, Sigma.map]

theorem mapVal_id (t : Table κ α) : t.mapVal (fun _ v => v) = t := by
  apply AList.ext
  exact List.map_id t.entries

theorem mapVal_mapVal {γ : Type*} (t : Table κ α) (g : κ → α → β) (h : κ → β → γ) :
    (t.mapVal g).mapVal h = t.mapVal fun k v => h k (g k v) := by
  apply AList.ext
  simp [mapVal, Sigma.map]

/-- A total of ones and zeros is a count. -/
theorem total_eq_countP (t : Table κ α) (p : α → Bool) :
    (t.total fun v => if p v then 1 else 0) = t.values.countP p := by
  simp only [total]
  induction t.values with
  | nil => rfl
  | cons v vs ih =>
    rw [List.map_cons, List.sum_cons, ih, List.countP_cons]
    omega

variable {t : Table κ α} {k : κ}

/-- A map whose keys lie in a list no longer than itself has all of them. -/
theorem mem_of_length_le {ks : List κ} (h : ∀ k ∈ t, k ∈ ks)
    (hlength : ks.length ≤ t.entries.length) (hk : k ∈ ks) : k ∈ t := by
  have hkeys : t.keys.length = t.entries.length := by
    rw [AList.keys, List.keys, List.length_map]
  have hsub : t.keys.Subperm ks :=
    List.subperm_of_subset t.keys_nodup fun j hj => h j (AList.mem_keys.2 hj)
  exact AList.mem_keys.1 ((hsub.perm_of_length_le (hkeys ▸ hlength)).mem_iff.2 hk)

variable [DecidableEq κ]

/-- Rewrite the value at `k`, if there is one. -/
def modify (k : κ) (g : α → α) (t : Table κ α) : Table κ α :=
  mapVal (fun j v => if j = k then g v else v) t

@[simp] theorem lookup_mapVal (g : κ → α → β) (t : Table κ α) (k : κ) :
    (mapVal g t).lookup k = (t.lookup k).map (g k) :=
  List.dlookup_map₂ k

theorem lookup_modify (k j : κ) (g : α → α) (t : Table κ α) :
    (modify k g t).lookup j = if j = k then (t.lookup j).map g else t.lookup j := by
  rw [modify, lookup_mapVal]
  split_ifs <;> simp

variable {v : α}

/-- Rewriting depends on what the rewriting makes of the value that is there. -/
theorem modify_congr {g h : α → α} (hv : t.lookup k = some v) (hgh : g v = h v) :
    modify k g t = modify k h t := by
  apply AList.ext
  apply List.map_congr_left
  intro e he
  by_cases hk : e.1 = k
  · subst hk
    have hvalue : v = e.2 := Option.some.inj (hv.symm.trans (AList.mem_lookup_iff.2 he))
    subst hvalue
    simp [Sigma.map, hgh]
  · simp [Sigma.map, hk]

theorem mem_of_lookup (h : t.lookup k = some v) : k ∈ t :=
  AList.lookup_isSome.1 (by rw [h]; rfl)

theorem mem_entries {e : Sigma fun _ : κ => α} : e ∈ t.entries ↔ t.lookup e.1 = some e.2 :=
  AList.mem_lookup_iff.symm

theorem modify_of_lookup_eq_none {g : α → α} (h : t.lookup k = none) : modify k g t = t := by
  apply AList.ext
  conv_rhs => rw [← List.map_id t.entries]
  apply List.map_congr_left
  intro e he
  have hne : e.1 ≠ k := by
    rintro rfl
    rw [mem_entries.1 he] at h
    cases h
  simp [Sigma.map, hne]

theorem mem_values : v ∈ t.values ↔ ∃ k, t.lookup k = some v := by
  constructor
  · intro h
    obtain ⟨e, he, rfl⟩ := List.mem_map.1 h
    exact ⟨e.1, mem_entries.1 he⟩
  · rintro ⟨k, hk⟩
    exact List.mem_map.2 ⟨⟨k, v⟩, mem_entries.2 hk, rfl⟩

theorem lookup_insert_eq (k j : κ) (v : α) (t : Table κ α) :
    (t.insert k v).lookup j = if j = k then some v else t.lookup j := by
  split_ifs with h
  · subst h
    exact AList.lookup_insert t
  · exact AList.lookup_insert_ne h

theorem lookup_erase_eq (k j : κ) (t : Table κ α) :
    (t.erase k).lookup j = if j = k then none else t.lookup j := by
  split_ifs with h
  · subst h
    exact AList.lookup_erase j t
  · exact AList.lookup_erase_ne h

/-- The map of a list, the last entry of a key winning. -/
def collect (key : β → κ) (val : β → α) (l : List β) : Table κ α :=
  l.foldl (fun t b => t.insert (key b) (val b)) ∅

theorem collect_concat (key : β → κ) (val : β → α) (l : List β) (b : β) :
    collect key val (l ++ [b]) = (collect key val l).insert (key b) (val b) := by
  simp [collect]

theorem exists_of_lookup_collect {key : β → κ} {val : β → α} {l : List β}
    (h : (collect key val l).lookup k = some v) : ∃ b ∈ l, key b = k ∧ val b = v := by
  induction l using List.reverseRecOn with
  | nil => cases h
  | append_singleton l b ih =>
    rw [collect_concat, lookup_insert_eq] at h
    split_ifs at h with hk
    · exact ⟨b, by simp, hk.symm, Option.some.inj h⟩
    · obtain ⟨c, hc, hkey⟩ := ih h
      exact ⟨c, List.mem_append_left _ hc, hkey⟩

/-- Where the keys are distinct, every entry is kept. -/
theorem lookup_collect_of_mem {key : β → κ} {val : β → α} {l : List β}
    (h : (l.map key).Nodup) {b : β} (hb : b ∈ l) :
    (collect key val l).lookup (key b) = some (val b) := by
  induction l using List.reverseRecOn with
  | nil => cases hb
  | append_singleton l c ih =>
    rw [List.map_append, List.map_singleton, List.nodup_append] at h
    rw [collect_concat, lookup_insert_eq]
    rcases List.mem_append.1 hb with hmem | hmem
    · have hne : key b ≠ key c := fun heq =>
        h.2.2 _ (List.mem_map_of_mem hmem) _ (List.mem_singleton_self _) heq
      rw [if_neg hne, ih h.1 hmem]
    · obtain rfl := List.mem_singleton.1 hmem
      rw [if_pos rfl]

/-- The values in the order of their keys. -/
def ascending [LinearOrder κ] (t : Table κ α) : List α :=
  (t.entries.insertionSort fun a b => a.1 ≤ b.1).map Sigma.snd

theorem mem_ascending [LinearOrder κ] : v ∈ t.ascending ↔ ∃ k, t.lookup k = some v := by
  rw [ascending, List.mem_map, ← mem_values, values, List.mem_map]
  simp only [List.mem_insertionSort]

/-! ## Totals -/

theorem total_insert (h : k ∉ t) (v : α) (f : α → Nat) :
    total f (t.insert k v) = f v + total f t := by
  simp only [total, values, AList.entries_insert_of_notMem h, List.map_cons, List.sum_cons]

theorem total_erase (h : t.lookup k = some v) (f : α → Nat) :
    total f t = f v + total f (t.erase k) := by
  obtain ⟨w, l₁, l₂, hk, hsplit, herase⟩ := List.exists_of_kerase (mem_of_lookup h)
  have hw : w = v := by
    have hmem : (⟨k, w⟩ : Sigma fun _ : κ => α) ∈ t.entries := by rw [hsplit]; simp
    exact Option.some.inj ((mem_entries.1 hmem).symm.trans h)
  subst hw
  have he : (t.erase k).entries = l₁ ++ l₂ := herase
  simp only [total, values, hsplit, he, List.map_append, List.map_cons, List.sum_append,
    List.sum_cons]
  omega

/-- Rewriting the values moves a total only through the values. -/
theorem total_mapVal {g : κ → α → β} {f : β → Nat} {f' : α → Nat}
    (h : ∀ k v, t.lookup k = some v → f (g k v) = f' v) : total f (mapVal g t) = total f' t := by
  rw [total, total, values_mapVal, values, List.map_map, List.map_map]
  exact congrArg List.sum (List.map_congr_left fun e he => h e.1 e.2 (mem_entries.1 he))

theorem total_congr {f f' : α → Nat} (h : ∀ k v, t.lookup k = some v → f v = f' v) :
    total f t = total f' t := by
  simp only [total]
  refine congrArg List.sum (List.map_congr_left ?_)
  intro v hv
  obtain ⟨k, hk⟩ := mem_values.1 hv
  exact h k v hk

theorem le_total (h : t.lookup k = some v) (f : α → Nat) : f v ≤ total f t := by
  have := total_erase h f
  omega

theorem total_eq_zero {f : α → Nat} : total f t = 0 ↔ ∀ k v, t.lookup k = some v → f v = 0 := by
  constructor
  · intro h k v hk
    have := le_total hk f
    omega
  · intro h
    apply List.sum_eq_zero
    intro x hx
    obtain ⟨v, hv, rfl⟩ := List.mem_map.1 hx
    obtain ⟨k, hk⟩ := mem_values.1 hv
    exact h k v hk

end Table

end NpcRuntime
