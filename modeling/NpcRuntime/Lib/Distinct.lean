import NpcRuntime.Lib.Limit

/-!
# Sorting, and keeping the first of each key

`sort_by` followed by `dedup_by`, which drops what has the key of its predecessor. The sort is
stable, so of each key the first element of the list is kept (`mem_sortedDedup`), and the keys that
are left are distinct (`nodup_sortedDedup`). What has a key of its own is kept whatever is appended
(`mem_sortedDedup_append`).
-/

namespace NpcRuntime

variable {α κ : Type*} [LinearOrder κ] (key : α → κ)

/-- `dedup_by`, behind an element of the given key. -/
def dedupFrom (k : κ) : List α → List α
  | [] => []
  | a :: l => if key a = k then dedupFrom k l else a :: dedupFrom (key a) l

/-- `dedup_by`. -/
def dedupByKey : List α → List α
  | [] => []
  | a :: l => a :: dedupFrom key (key a) l

/-- `sort_by` and `dedup_by`. -/
def sortedDedup (l : List α) : List α :=
  dedupByKey key (l.insertionSort fun a b => key a ≤ key b)

variable {key} {l : List α}

theorem dedupFrom_spec {k : κ} (hl : l.Pairwise fun a b => key a ≤ key b)
    (hk : ∀ a ∈ l, k ≤ key a) :
    ((dedupFrom key k l).map key).Pairwise (· < ·) ∧ (∀ a ∈ dedupFrom key k l, k < key a) ∧
      ∀ x, x ∈ dedupFrom key k l ↔ key x ≠ k ∧ l.find? (fun a => key a = key x) = some x := by
  induction l generalizing k with
  | nil => exact ⟨List.Pairwise.nil, fun a ha => (nomatch ha), fun x => by simp [dedupFrom]⟩
  | cons a l ih =>
    obtain ⟨ha, hrest⟩ := List.pairwise_cons.1 hl
    unfold dedupFrom
    by_cases hsame : key a = k
    · obtain ⟨hpairwise, hlt, hmem⟩ := ih hrest fun b hb => hk b (List.mem_cons_of_mem a hb)
      rw [if_pos hsame]
      refine ⟨hpairwise, hlt, ?_⟩
      intro x
      rw [hmem]
      refine and_congr_right ?_
      intro hx
      rw [List.find?_cons_of_neg (by simpa [hsame] using fun h => hx h.symm)]
    · obtain ⟨hpairwise, hlt, hmem⟩ := ih hrest ha
      have hbelow : k < key a := lt_of_le_of_ne (hk a List.mem_cons_self) (Ne.symm hsame)
      rw [if_neg hsame]
      refine ⟨?_, ?_, ?_⟩
      · rw [List.map_cons, List.pairwise_cons]
        refine ⟨?_, hpairwise⟩
        intro b hb
        obtain ⟨c, hc, rfl⟩ := List.mem_map.1 hb
        exact hlt c hc
      · intro b hb
        rcases List.mem_cons.1 hb with rfl | hb
        · exact hbelow
        · exact hbelow.trans (hlt b hb)
      · intro x
        rw [List.mem_cons, hmem]
        by_cases hx : key a = key x
        · rw [List.find?_cons_of_pos (by simpa using hx)]
          constructor
          · intro h
            rcases h with rfl | hlater
            · exact ⟨hsame, rfl⟩
            · exact absurd hx.symm hlater.1
          · intro h
            exact .inl (Option.some.inj h.2).symm
        · rw [List.find?_cons_of_neg (by simpa using hx)]
          constructor
          · intro h
            rcases h with rfl | hlater
            · exact absurd rfl hx
            · have hin := List.mem_of_find?_eq_some hlater.2
              exact ⟨(hbelow.trans_le (ha x hin)).ne', hlater.2⟩
          · intro h
            exact .inr ⟨fun heq => hx heq.symm, h.2⟩

theorem dedupByKey_spec (hl : l.Pairwise fun a b => key a ≤ key b) :
    ((dedupByKey key l).map key).Pairwise (· < ·) ∧
      ∀ x, x ∈ dedupByKey key l ↔ l.find? (fun a => key a = key x) = some x := by
  cases l with
  | nil => exact ⟨List.Pairwise.nil, fun x => by simp [dedupByKey]⟩
  | cons a l =>
    obtain ⟨ha, hrest⟩ := List.pairwise_cons.1 hl
    obtain ⟨hpairwise, hlt, hmem⟩ := dedupFrom_spec hrest ha
    refine ⟨?_, ?_⟩
    · rw [dedupByKey, List.map_cons, List.pairwise_cons]
      refine ⟨?_, hpairwise⟩
      intro b hb
      obtain ⟨c, hc, rfl⟩ := List.mem_map.1 hb
      exact hlt c hc
    · intro x
      rw [dedupByKey, List.mem_cons, hmem]
      by_cases hx : key a = key x
      · rw [List.find?_cons_of_pos (by simpa using hx)]
        constructor
        · intro h
          rcases h with rfl | hlater
          · rfl
          · exact absurd hx.symm hlater.1
        · intro h
          exact .inl (Option.some.inj h).symm
      · rw [List.find?_cons_of_neg (by simpa using hx)]
        constructor
        · intro h
          rcases h with rfl | hlater
          · exact absurd rfl hx
          · exact hlater.2
        · intro h
          exact .inr ⟨fun heq => hx heq.symm, h⟩

/-- A stable sort leaves the first element that passes the first, where all that pass have one
key. -/
theorem find?_insertionSort_key (l : List α) {p : α → Bool} {k : κ}
    (hp : ∀ a, p a = true → key a = k) :
    (l.insertionSort fun a b => key a ≤ key b).find? p = l.find? p := by
  have hties : (l.filter p).Pairwise fun a b => key a ≤ key b := by
    apply List.pairwise_of_forall_mem_list
    intro a ha b hb
    rw [hp a (List.mem_filter.1 ha).2, hp b (List.mem_filter.1 hb).2]
  rw [← List.head?_filter, filter_insertionSort, List.Pairwise.insertionSort_eq hties,
    List.head?_filter]

variable {x : α}

/-- **Of each key the first is kept.** -/
theorem mem_sortedDedup : x ∈ sortedDedup key l ↔ l.find? (fun a => key a = key x) = some x := by
  rw [sortedDedup, (dedupByKey_spec (pairwise_insertionSort_key key l)).2,
    find?_insertionSort_key l fun a ha => of_decide_eq_true ha]

/-- **The keys are distinct.** -/
theorem nodup_sortedDedup (l : List α) : ((sortedDedup key l).map key).Nodup :=
  (dedupByKey_spec (pairwise_insertionSort_key key l)).1.imp fun h => ne_of_lt h

/-- What has a key of its own is kept before all that is appended. -/
theorem mem_sortedDedup_append (hl : (l.map key).Nodup) (more : List α) (hx : x ∈ l) :
    x ∈ sortedDedup key (l ++ more) := by
  rw [mem_sortedDedup, List.find?_append]
  have hfound : l.find? (fun a => key a = key x) = some x := by
    cases hfind : l.find? (fun a => key a = key x) with
    | none => exact absurd (List.find?_eq_none.1 hfind x hx) (by simp)
    | some y =>
      have hkey : key y = key x := by simpa using List.find?_some hfind
      rw [List.inj_on_of_nodup_map hl (List.mem_of_find?_eq_some hfind) hx hkey]
  rw [hfound]
  rfl

theorem mem_of_mem_sortedDedup (h : x ∈ sortedDedup key l) : x ∈ l :=
  List.mem_of_find?_eq_some (mem_sortedDedup.1 h)

/-- Elements that are their own keys are only sorted, and kept once. -/
theorem mem_sortedDedup_self {l : List κ} {x : κ} : x ∈ sortedDedup (fun a => a) l ↔ x ∈ l := by
  refine ⟨mem_of_mem_sortedDedup, ?_⟩
  intro hx
  rw [mem_sortedDedup]
  cases hfind : l.find? (fun a => a = x) with
  | none => exact absurd (List.find?_eq_none.1 hfind x hx) (by simp)
  | some y =>
    have hy : y = x := by simpa using List.find?_some hfind
    rw [hy]

end NpcRuntime
