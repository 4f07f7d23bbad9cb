import Mathlib.Data.List.Induction
import Mathlib.Data.List.Perm.Basic

/-!
# Lists that grow at the end

Facts about a list and one more element behind it, and about loops that collect what they meet.
-/

namespace NpcRuntime

variable {α β : Type*}

variable {l : List α} {a : α}

/-- A relation along a list that has been extended by one element. -/
theorem pairwise_concat {r : α → α → Prop} :
    (l ++ [a]).Pairwise r ↔ l.Pairwise r ∧ ∀ b ∈ l, r b a := by
  simp [List.pairwise_append]

theorem forall_mem_concat {p : α → Prop} : (∀ b ∈ l ++ [a], p b) ↔ (∀ b ∈ l, p b) ∧ p a := by
  simp [or_imp, forall_and]

/-- Under a transitive relation only the last element before the new one counts. -/
theorem pairwise_concat_last {r : α → α → Prop} (htrans : ∀ a b c, r a b → r b c → r a c) :
    (l ++ [a]).Pairwise r ↔ l.Pairwise r ∧ ∀ b, l.getLast? = some b → r b a := by
  rw [pairwise_concat]
  refine and_congr_right ?_
  intro hl
  constructor
  · intro h b hb
    exact h b (List.mem_of_getLast? hb)
  · intro h b hb
    induction l using List.reverseRecOn with
    | nil => cases hb
    | append_singleton l c _ =>
      have hlast : r c a := h c (by simp)
      rcases List.mem_append.1 hb with hb | hb
      · exact htrans b c a ((pairwise_concat.1 hl).2 b hb) hlast
      · rwa [List.mem_singleton.1 hb]

/-- Taking out the one entry with a key, where no two entries share one. -/
theorem perm_cons_filter_key {κ : Type*} [BEq κ] [LawfulBEq κ] {key : α → κ} (h : (l.map key).Nodup)
    (ha : a ∈ l) : l.Perm (a :: l.filter fun b => key b != key a) := by
  induction l with
  | nil => cases ha
  | cons b l ih =>
    obtain ⟨hb, hl⟩ := List.nodup_cons.1 h
    rcases List.mem_cons.1 ha with rfl | ha
    · have hkept : l.filter (fun c => key c != key a) = l := by
        rw [List.filter_eq_self]
        intro c hc
        rw [bne_iff_ne]
        intro hkey
        exact hb (hkey ▸ List.mem_map_of_mem hc)
      simp [hkept]
    · have hkey : key b ≠ key a := by
        intro hkey
        exact hb (hkey ▸ List.mem_map_of_mem ha)
      rw [List.filter_cons_of_pos (by simpa using hkey)]
      exact ((ih hl ha).cons b).trans (List.Perm.swap a b _)

/-- The images of the elements with one, and the elements with none, are all. -/
theorem perm_filterMap_filter {γ : Type*} (f : α → Option β) (image : β → γ) (key : α → γ)
    (h : ∀ a b, f a = some b → image b = key a) (l : List α) :
    (l.map key).Perm ((l.filterMap f).map image ++ (l.filter fun a => (f a).isNone).map key) := by
  induction l with
  | nil => exact .nil
  | cons a l ih =>
    cases hf : f a with
    | none =>
      rw [List.filterMap_cons_none hf, List.filter_cons_of_pos (by simp [hf])]
      exact (ih.cons (key a)).trans List.perm_middle.symm
    | some b =>
      rw [List.filterMap_cons_some hf, List.filter_cons_of_neg (by simp [hf]), List.map_cons,
        List.map_cons, h a b hf]
      exact ih.cons (key a)

/-- One step of a queue's account: what was taken in has left or is pending, and stays so when the
step loses nothing. -/
theorem account_step {taken left pending pending' new gone lost : List α}
    (h : taken.Perm (left ++ pending))
    (hstep : (new ++ pending).Perm (gone ++ (lost ++ pending'))) :
    (taken ++ new).Perm (left ++ gone ++ pending') ↔ lost = [] := by
  have htotal : (taken ++ new).Perm (left ++ gone ++ (lost ++ pending')) := by
    calc (taken ++ new).Perm (left ++ pending ++ new) := h.append_right new
      _ = left ++ (pending ++ new) := List.append_assoc ..
      List.Perm _ (left ++ (new ++ pending)) := List.perm_append_comm.append_left left
      List.Perm _ (left ++ (gone ++ (lost ++ pending'))) := hstep.append_left left
      _ = left ++ gone ++ (lost ++ pending') := (List.append_assoc ..).symm
  constructor
  · intro hkept
    have hlength := (htotal.symm.trans hkept).length_eq
    simp only [List.length_append] at hlength
    exact List.eq_nil_of_length_eq_zero (by omega)
  · rintro rfl
    exact htotal

/-! ## Distinct keys -/

section DistinctKeys

variable {κ : Type*} [DecidableEq κ] (p : α → Bool) (key : α → κ)

/-- A loop that collects the keys of the elements that pass `p`, each key once. -/
def distinctKeys (l : List α) : List κ :=
  l.foldl (fun keys a => if !keys.contains (key a) && p a then key a :: keys else keys) []

theorem distinctKeys_concat (l : List α) (a : α) :
    distinctKeys p key (l ++ [a]) =
      if !(distinctKeys p key l).contains (key a) && p a then key a :: distinctKeys p key l
      else distinctKeys p key l := by
  simp [distinctKeys]

theorem distinctKeys_nodup (l : List α) : (distinctKeys p key l).Nodup := by
  induction l using List.reverseRecOn with
  | nil => exact .nil
  | append_singleton l a ih =>
    rw [distinctKeys_concat]
    split_ifs with h
    · simp only [Bool.and_eq_true, Bool.not_eq_true', List.contains_eq_mem,
        decide_eq_false_iff_not] at h
      exact List.nodup_cons.2 ⟨h.1, ih⟩
    · exact ih

theorem mem_distinctKeys {k : κ} : k ∈ distinctKeys p key l ↔ ∃ a ∈ l, p a = true ∧ key a = k := by
  induction l using List.reverseRecOn with
  | nil => simp [distinctKeys]
  | append_singleton l a ih =>
    have hcons : (∃ b ∈ l ++ [a], p b = true ∧ key b = k) ↔
        (∃ b ∈ l, p b = true ∧ key b = k) ∨ (p a = true ∧ key a = k) := by
      simp [or_and_right, exists_or]
    rw [distinctKeys_concat, hcons, ← ih]
    split_ifs with h
    · simp only [Bool.and_eq_true, Bool.not_eq_true'] at h
      simp [h.2, eq_comm, or_comm]
    · constructor
      · exact Or.inl
      · intro hk
        rcases hk with hk | ⟨hp, rfl⟩
        · exact hk
        · simpa [hp] using h

end DistinctKeys

end NpcRuntime
