import Mathlib.Data.List.Perm.Basic
import Mathlib.Data.List.Perm.Lattice

/-!
# Indexes over the content of a table

An index that keeps no content of its own is driven by commands: `add` an entry, `remove` an entry,
`rebuild` from scratch. It cannot tell whether an entry it is asked to remove is there; the removals
of entries that were not are kept in `unmatched` until a rebuild. An index that has met one need not
take the next removal: which it refuses is a parameter (`takes`).

The index mirrors a table when it has exactly one entry for each live row (`Mirrors`). Whatever
updates do to the rows, triggers that remove what was live and add what is live keep the mirror
(`Mirrors.update`). A trigger that removes every deleted row finds their entries exactly if the
deleted rows were live (`Mirrors.unmatched_delete_iff`), and a rebuild from all rows mirrors them
exactly if all rows are live (`mirrors_rebuild_iff`).
-/

namespace NpcRuntime

variable {α ε : Type}

structure ContentIndex (ε : Type) where
  entries : List ε
  /-- The removals of entries that were not there, since the last rebuild. -/
  unmatched : List ε
deriving DecidableEq

namespace ContentIndex

def empty : ContentIndex ε := ⟨[], []⟩

def add (e : ε) (index : ContentIndex ε) : ContentIndex ε :=
  { index with entries := index.entries ++ [e] }

def remove [DecidableEq ε] (e : ε) (index : ContentIndex ε) : ContentIndex ε :=
  if e ∈ index.entries then { index with entries := index.entries.erase e }
  else { index with unmatched := index.unmatched ++ [e] }

/-- Rebuild from the entries of all rows. -/
def rebuild (entries : List ε) : ContentIndex ε := ⟨entries, []⟩

variable (live : α → Bool) (entry : α → ε)

/-- The entries of the live rows. -/
def liveEntries (rows : List α) : List ε := (rows.filter live).map entry

/-- One entry for each live row and no other, and every removal had its entry. -/
structure Mirrors (rows : List α) (index : ContentIndex ε) : Prop where
  entries : index.entries.Perm (liveEntries live entry rows)
  matched : index.unmatched = []

variable {live entry}

theorem liveEntries_cons_live {r : α} (h : live r = true) (rows : List α) :
    liveEntries live entry (r :: rows) = entry r :: liveEntries live entry rows := by
  simp [liveEntries, h]

theorem liveEntries_cons_dead {r : α} (h : live r = false) (rows : List α) :
    liveEntries live entry (r :: rows) = liveEntries live entry rows := by
  simp [liveEntries, h]

theorem liveEntries_append (rows rows' : List α) :
    liveEntries live entry (rows ++ rows') =
      liveEntries live entry rows ++ liveEntries live entry rows' := by
  simp [liveEntries]

@[simp] theorem liveEntries_nil : liveEntries live entry [] = [] := rfl

/-- The entries of the first row can be moved behind those of the others. -/
theorem liveEntries_cons_perm (r : α) (rows : List α) (rest : List ε) :
    (liveEntries live entry (r :: rows) ++ rest).Perm
      (liveEntries live entry rows ++ (liveEntries live entry [r] ++ rest)) := by
  have hsplit : liveEntries live entry (r :: rows) =
      liveEntries live entry [r] ++ liveEntries live entry rows := liveEntries_append [r] rows
  rw [hsplit, List.append_assoc]
  exact List.perm_append_comm_assoc _ _ _

theorem Mirrors.empty : Mirrors live entry [] (ContentIndex.empty : ContentIndex ε) :=
  ⟨.nil, rfl⟩

/-- The trigger of an insertion. -/
def inserted (live : α → Bool) (entry : α → ε) (new : α) (index : ContentIndex ε) :
    ContentIndex ε :=
  if live new then index.add (entry new) else index

variable {rows : List α} {index : ContentIndex ε}

theorem Mirrors.insert (h : Mirrors live entry rows index) (new : α) :
    Mirrors live entry (rows ++ [new]) (inserted live entry new index) := by
  unfold inserted
  by_cases hlive : live new = true
  · rw [if_pos hlive]
    refine ⟨?_, h.matched⟩
    rw [liveEntries_append, liveEntries_cons_live hlive]
    exact h.entries.append_right [entry new]
  · rw [if_neg hlive]
    refine ⟨?_, h.matched⟩
    rw [liveEntries_append, liveEntries_cons_dead (by simpa using hlive)]
    simpa using h.entries

section Triggers

variable [DecidableEq ε]

/-- The trigger of an update: remove what was live, add what is live. -/
def updated (live : α → Bool) (entry : α → ε) (old new : α) (index : ContentIndex ε) :
    ContentIndex ε :=
  inserted live entry new (if live old then index.remove (entry old) else index)

/-- An update of the rows that satisfy `p`, row by row. -/
def updatedWhere (live : α → Bool) (entry : α → ε) (p : α → Bool) (f : α → α) (rows : List α)
    (index : ContentIndex ε) : ContentIndex ε :=
  (rows.filter p).foldl (fun index old => updated live entry old (f old) index) index

/-- A deletion of the rows that satisfy `p`, whose trigger removes every one of them. -/
def deletedWhere (entry : α → ε) (p : α → Bool) (rows : List α) (index : ContentIndex ε) :
    ContentIndex ε :=
  (rows.filter p).foldl (fun index old => index.remove (entry old)) index

/-- Whether the index takes the removals, one after another. As long as it lists what it should, it
takes that of an entry that is there; `refuses` decides on the others. -/
def takes (refuses : ContentIndex ε → ε → Bool) : List ε → ContentIndex ε → Bool
  | [], _ => true
  | e :: rest, index =>
    (e ∈ index.entries ∧ index.unmatched = [] || !refuses index e) &&
      takes refuses rest (index.remove e)

/-- Removing an entry that is there. -/
theorem remove_of_perm {e : ε} {rest : List ε} (h : index.entries.Perm (e :: rest)) :
    (index.remove e).entries.Perm rest ∧ (index.remove e).unmatched = index.unmatched := by
  have hmem : e ∈ index.entries := h.mem_iff.2 List.mem_cons_self
  rw [remove, if_pos hmem]
  refine ⟨?_, rfl⟩
  simpa using h.erase e

/-- One update of a mirrored row, whatever else the index lists. -/
theorem updated_perm {old new : α} {rest : List ε}
    (h : index.entries.Perm (liveEntries live entry [old] ++ rest))
    (hmatched : index.unmatched = []) :
    (updated live entry old new index).entries.Perm (liveEntries live entry [new] ++ rest) ∧
      (updated live entry old new index).unmatched = [] := by
  have hremoved : (if live old then index.remove (entry old) else index).entries.Perm rest ∧
      (if live old then index.remove (entry old) else index).unmatched = [] := by
    by_cases hold : live old = true
    · rw [if_pos hold]
      rw [liveEntries_cons_live hold] at h
      obtain ⟨hentries, hsame⟩ := remove_of_perm h
      exact ⟨hentries, hsame.trans hmatched⟩
    · rw [if_neg hold]
      rw [liveEntries_cons_dead (by simpa using hold)] at h
      exact ⟨h, hmatched⟩
  unfold updated inserted
  by_cases hnew : live new = true
  · rw [if_pos hnew, liveEntries_cons_live hnew]
    refine ⟨?_, hremoved.2⟩
    exact (hremoved.1.append_right [entry new]).trans List.perm_append_comm
  · rw [if_neg hnew, liveEntries_cons_dead (by simpa using hnew)]
    exact hremoved

/-- **Updates keep the mirror.** -/
theorem Mirrors.update (h : Mirrors live entry rows index) (p : α → Bool) (f : α → α) :
    Mirrors live entry (rows.map fun r => if p r then f r else r)
      (updatedWhere live entry p f rows index) := by
  -- The rows already updated are part of what else the index lists.
  have hloop : ∀ (rows : List α) (index : ContentIndex ε) (rest : List ε),
      index.entries.Perm (liveEntries live entry rows ++ rest) → index.unmatched = [] →
      (updatedWhere live entry p f rows index).entries.Perm
          (liveEntries live entry (rows.map fun r => if p r then f r else r) ++ rest) ∧
        (updatedWhere live entry p f rows index).unmatched = [] := by
    intro rows
    induction rows with
    | nil =>
      intro index rest hentries hmatched
      exact ⟨hentries, hmatched⟩
    | cons r rows ih =>
      intro index rest hentries hmatched
      have hmoved := hentries.trans (liveEntries_cons_perm r rows rest)
      by_cases hp : p r = true
      · have hstep : updatedWhere live entry p f (r :: rows) index =
            updatedWhere live entry p f rows (updated live entry r (f r) index) := by
          simp [updatedWhere, hp]
        rw [hstep, List.map_cons, if_pos hp]
        have hfront := hmoved.trans (List.perm_append_comm_assoc _ _ _)
        obtain ⟨hupdated, hunmatched⟩ := @updated_perm α ε live entry _ _ r (f r) _ hfront hmatched
        obtain ⟨hrest, hlast⟩ :=
          ih _ _ (hupdated.trans (List.perm_append_comm_assoc _ _ _)) hunmatched
        exact ⟨hrest.trans (liveEntries_cons_perm _ _ _).symm, hlast⟩
      · have hstep : updatedWhere live entry p f (r :: rows) index =
            updatedWhere live entry p f rows index := by
          simp [updatedWhere, hp]
        rw [hstep, List.map_cons, if_neg hp]
        obtain ⟨hrest, hlast⟩ := ih _ _ hmoved hmatched
        exact ⟨hrest.trans (liveEntries_cons_perm _ _ _).symm, hlast⟩
  have h' := hloop rows index [] (by simpa using h.entries) h.matched
  exact ⟨by simpa using h'.1, h'.2⟩

/-- Unmatched removals stay on record. -/
theorem unmatched_deletedWhere (p : α → Bool) (rows : List α) (index : ContentIndex ε) :
    index.unmatched <+: (deletedWhere entry p rows index).unmatched := by
  unfold deletedWhere
  generalize rows.filter p = doomed
  induction doomed generalizing index with
  | nil => exact List.prefix_rfl
  | cons r doomed ih =>
    have hstep : index.unmatched <+: (index.remove (entry r)).unmatched := by
      unfold remove
      by_cases hmem : entry r ∈ index.entries
      · simp only [if_pos hmem, List.prefix_rfl]
      · rw [if_neg hmem]
        exact List.prefix_append _ _
    exact hstep.trans (ih _)

/-- What a deletion leaves of the entries of the rows, and of `rest`: it finds the entries of the rows
that it removes exactly if they were live. -/
theorem deletedWhere_perm (p : α → Bool) :
    ∀ (rows : List α) (index : ContentIndex ε) (rest : List ε),
      index.entries.Perm (liveEntries live entry rows ++ rest) → index.unmatched = [] →
      (∀ r ∈ rows, live r = false → entry r ∉ liveEntries live entry rows ++ rest) →
      ((deletedWhere entry p rows index).unmatched = [] ↔ ∀ r ∈ rows, p r = true → live r = true) ∧
        ((∀ r ∈ rows, p r = true → live r = true) →
          (deletedWhere entry p rows index).entries.Perm
            (liveEntries live entry (rows.filter fun r => !p r) ++ rest)) := by
  intro rows
  induction rows with
  | nil =>
    intro index rest hentries hmatched _
    refine ⟨?_, fun _ => hentries⟩
    simpa [deletedWhere] using hmatched
  | cons r rows ih =>
    intro index rest hentries hmatched hapart
    have htail : ∀ rest' : List ε, (∀ e ∈ rest', e ∈ liveEntries live entry (r :: rows) ++ rest) →
        ∀ s ∈ rows, live s = false → entry s ∉ liveEntries live entry rows ++ rest' := by
      intro rest' hrest' s hs hdead hmem
      apply hapart s (List.mem_cons_of_mem r hs) hdead
      rcases List.mem_append.1 hmem with hmem | hmem
      · apply List.mem_append_left
        obtain ⟨t, ht, heq⟩ := List.mem_map.1 hmem
        obtain ⟨ht, hlive⟩ := List.mem_filter.1 ht
        exact List.mem_map.2 ⟨t, List.mem_filter.2 ⟨List.mem_cons_of_mem r ht, hlive⟩, heq⟩
      · exact hrest' _ hmem
    by_cases hp : p r = true
    · have hstep : deletedWhere entry p (r :: rows) index =
          deletedWhere entry p rows (index.remove (entry r)) := by
        simp [deletedWhere, hp]
      rw [hstep, List.filter_cons_of_neg (by simp [hp]), List.forall_mem_cons]
      by_cases hlive : live r = true
      · rw [liveEntries_cons_live hlive, List.cons_append] at hentries
        obtain ⟨hremoved, hsame⟩ := remove_of_perm hentries
        obtain ⟨hunmatched, hperm⟩ := ih _ rest hremoved (hsame.trans hmatched)
          (htail rest fun e he => List.mem_append_right _ he)
        refine ⟨?_, fun hall => hperm hall.2⟩
        rw [hunmatched]
        simp [hlive]
      · have hdead : live r = false := by simpa using hlive
        have habsent : entry r ∉ index.entries := by
          intro hmem
          exact hapart r List.mem_cons_self hdead (hentries.mem_iff.1 hmem)
        have hrecorded := @unmatched_deletedWhere α ε entry _ p rows (index.remove (entry r))
        rw [remove, if_neg habsent] at hrecorded ⊢
        constructor
        · constructor
          · intro hnil
            rw [hnil] at hrecorded
            simp at hrecorded
          · intro hall
            exact absurd (hall.1 hp) hlive
        · intro hall
          exact absurd (hall.1 hp) hlive
    · have hstep : deletedWhere entry p (r :: rows) index =
          deletedWhere entry p rows index := by
        simp [deletedWhere, hp]
      rw [hstep, List.filter_cons_of_pos (by simpa using hp), List.forall_mem_cons]
      have hmoved := @liveEntries_cons_perm α ε live entry r rows rest
      obtain ⟨hunmatched, hperm⟩ := ih index (liveEntries live entry [r] ++ rest)
        (hentries.trans hmoved) hmatched (htail _ fun e he => hmoved.symm.subset
          (List.mem_append_right _ he))
      refine ⟨?_, ?_⟩
      · rw [hunmatched]
        simp [hp]
      · intro hall
        exact (hperm hall.2).trans (liveEntries_cons_perm _ _ _).symm

/-- **The removals of a deletion have their entries exactly if the deleted rows were live**, where
the entry of a dead row is not one of a live row. -/
theorem Mirrors.unmatched_delete_iff (h : Mirrors live entry rows index) (p : α → Bool)
    (hapart : ∀ r ∈ rows, live r = false → entry r ∉ liveEntries live entry rows) :
    (deletedWhere entry p rows index).unmatched = [] ↔ ∀ r ∈ rows, p r = true → live r = true :=
  (deletedWhere_perm p rows index [] (by simpa using h.entries) h.matched (by simpa using hapart)).1

/-- **The deletion of live rows keeps the mirror.** -/
theorem Mirrors.delete (h : Mirrors live entry rows index) {p : α → Bool}
    (hapart : ∀ r ∈ rows, live r = false → entry r ∉ liveEntries live entry rows)
    (hlive : ∀ r ∈ rows, p r = true → live r = true) :
    Mirrors live entry (rows.filter fun r => !p r) (deletedWhere entry p rows index) := by
  have hperm := (deletedWhere_perm p rows index [] (by simpa using h.entries) h.matched
    (by simpa using hapart)).2 hlive
  exact ⟨by simpa using hperm, (h.unmatched_delete_iff p hapart).2 hlive⟩

end Triggers

/-- **A rebuild from all rows mirrors them exactly if all rows are live.** -/
theorem mirrors_rebuild_iff :
    Mirrors live entry rows (rebuild (rows.map entry)) ↔ ∀ r ∈ rows, live r = true := by
  constructor
  · intro h
    have hlength := h.entries.length_eq
    simp only [rebuild, liveEntries, List.length_map] at hlength
    exact List.filter_eq_self.1 (List.filter_sublist.eq_of_length hlength.symm)
  · intro h
    refine ⟨?_, rfl⟩
    show (rows.map entry).Perm (liveEntries live entry rows)
    rw [liveEntries, List.filter_eq_self.2 h]

end ContentIndex

end NpcRuntime
