import Mathlib.Data.List.Sort
import Mathlib.Data.List.Nodup

/-!
# Ordered queries with a limit

`SELECT … ORDER BY … LIMIT n`, and a filter behind it: the rows that pass among the first `n`. They
begin the list of all rows that pass; where that list is cut short is what `take_filter_take_iff`
says. A query that is ordered by an order without ties gives the same list whatever the order of the
table (`insertionSort_eq_of_perm`). Filtering may come before or after the order
(`filter_insertionSort`).
-/

namespace NpcRuntime

variable {α : Type*}

/-- **A filter behind a limit.** The first `k` of the rows that pass are found among the first `n`
rows exactly if `k` of those pass, or none behind them does. -/
theorem take_filter_take_iff (p : α → Bool) (l : List α) (n k : Nat) :
    ((l.take n).filter p).take k = (l.filter p).take k ↔
      k ≤ ((l.take n).filter p).length ∨ ∀ a ∈ l.drop n, p a = false := by
  have hsplit : l.filter p = (l.take n).filter p ++ (l.drop n).filter p := by
    rw [← List.filter_append, List.take_append_drop]
  rw [hsplit, List.take_append]
  constructor
  · intro h
    by_cases hk : k ≤ ((l.take n).filter p).length
    · exact .inl hk
    · refine .inr ?_
      have hrest : ((l.drop n).filter p).take (k - ((l.take n).filter p).length) = [] := by
        rw [List.self_eq_append_right] at h
        exact h
      rw [List.take_eq_nil_iff] at hrest
      have hnone : (l.drop n).filter p = [] := hrest.resolve_left (by omega)
      intro a ha
      simpa using List.filter_eq_nil_iff.1 hnone a ha
  · intro h
    rw [List.self_eq_append_right, List.take_eq_nil_iff]
    rcases h with hk | hnone
    · exact .inl (by omega)
    · refine .inr (List.filter_eq_nil_iff.2 ?_)
      intro a ha
      simp [hnone a ha]

/-- Where both limits are the same, the filter may come first exactly if the limit cuts off no row
that passes for one that does not. -/
theorem filter_take_iff (p : α → Bool) (l : List α) (n : Nat) :
    (l.take n).filter p = (l.filter p).take n ↔
      (∀ a ∈ l.take n, p a = true) ∨ ∀ a ∈ l.drop n, p a = false := by
  by_cases hn : n ≤ l.length
  · have hshort : ((l.take n).filter p).length ≤ n :=
      (List.length_filter_le _ _).trans (List.length_take_le _ _)
    rw [← List.take_of_length_le hshort, take_filter_take_iff]
    refine or_congr_left ?_
    rw [← List.length_filter_eq_length_iff, List.length_take_of_le hn]
    omega
  · have hall : l.take n = l := List.take_of_length_le (by omega)
    have hshort : (l.filter p).length ≤ n := (List.length_filter_le _ _).trans (by omega)
    rw [hall, List.take_of_length_le hshort, List.drop_of_length_le (by omega)]
    simp

/-- The same for what is read off the rows. -/
theorem map_filter_take_iff {β : Type*} (p : α → Bool) (f : α → β) (l : List α) (n : Nat) :
    ((l.take n).filter p).map f = ((l.filter p).take n).map f ↔
      (∀ a ∈ l.take n, p a = true) ∨ ∀ a ∈ l.drop n, p a = false := by
  rw [← filter_take_iff]
  constructor
  · intro h
    have hlength : ((l.take n).filter p).length = ((l.filter p).take n).length := by
      simpa using congrArg List.length h
    -- Both begin the list of all rows that pass.
    have hprefix : (l.take n).filter p <+: (l.filter p).take n :=
      List.prefix_of_prefix_length_le ((List.take_prefix n l).filter p) (List.take_prefix n _)
        hlength.le
    exact hprefix.eq_of_length hlength
  · intro h
    rw [h]

section Order

variable (r : α → α → Prop) [DecidableRel r] [Std.Total r] [IsTrans α r]

/-- **An order without ties** sorts a list the same way, whatever order it is in. -/
theorem insertionSort_eq_of_perm {l l' : List α}
    (hties : ∀ a ∈ l, ∀ b ∈ l, r a b → r b a → a = b) (h : l.Perm l') :
    l.insertionSort r = l'.insertionSort r := by
  apply List.Perm.eq_of_pairwise
  · intro a b ha hb
    rw [List.mem_insertionSort] at ha hb
    exact hties a ha b (h.mem_iff.2 hb)
  · exact List.pairwise_insertionSort r l
  · exact List.pairwise_insertionSort r l'
  · exact (List.perm_insertionSort r l).trans (h.trans (List.perm_insertionSort r l').symm)

omit [Std.Total r] in
/-- In a sorted list, what is inserted is inserted among the elements that pass. -/
theorem filter_orderedInsert {l : List α} (hl : l.Pairwise r) (p : α → Bool) (a : α) :
    (l.orderedInsert r a).filter p =
      if p a then (l.filter p).orderedInsert r a else l.filter p := by
  induction l with
  | nil => by_cases ha : p a <;> simp [ha]
  | cons b l ih =>
    obtain ⟨hb, hrest⟩ := List.pairwise_cons.1 hl
    by_cases hab : r a b
    · rw [List.orderedInsert_cons_of_le r l hab, List.filter_cons]
      by_cases ha : p a
      · have hfirst : ∀ c ∈ (b :: l).filter p, r a c := by
          intro c hc
          rcases List.mem_cons.1 (List.mem_filter.1 hc).1 with rfl | hmem
          · exact hab
          · exact IsTrans.trans a b c hab (hb c hmem)
        rw [if_pos ha, if_pos ha]
        cases hrows : (b :: l).filter p with
        | nil => rfl
        | cons c rows =>
          exact (List.orderedInsert_cons_of_le r rows (hfirst c (hrows ▸ List.mem_cons_self))).symm
      · rw [if_neg ha, if_neg ha]
    · rw [List.orderedInsert_of_not_le r l hab, List.filter_cons, ih hrest, List.filter_cons]
      by_cases ha : p a
      · by_cases hpb : p b
        · simp only [if_pos ha, if_pos hpb]
          rw [List.orderedInsert_of_not_le r _ hab]
        · simp only [if_pos ha, if_neg hpb]
      · simp only [if_neg ha]

/-- **Filtering** the sorted list is sorting the filtered one, since the sort is stable. -/
theorem filter_insertionSort (p : α → Bool) (l : List α) :
    (l.insertionSort r).filter p = (l.filter p).insertionSort r := by
  induction l with
  | nil => rfl
  | cons a l ih =>
    rw [List.insertionSort_cons, filter_orderedInsert r (List.pairwise_insertionSort r l), ih,
      List.filter_cons]
    by_cases ha : p a
    · rw [if_pos ha, if_pos ha, List.insertionSort_cons]
    · rw [if_neg ha, if_neg ha]

end Order

/-- Sorting by a key. -/
theorem pairwise_insertionSort_key {κ : Type*} [LinearOrder κ] (key : α → κ) (l : List α) :
    (l.insertionSort fun a b => key a ≤ key b).Pairwise fun a b => key a ≤ key b := by
  exact List.pairwise_insertionSort _ l

end NpcRuntime
