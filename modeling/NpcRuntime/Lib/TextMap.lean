import Mathlib.Data.Char
import Mathlib.Data.List.Lex
import NpcRuntime.Lib.Text

/-!
# Maps from texts, in order

`BTreeMap<String, _>`: its entries, each key once, in the order of the keys. The order of texts by
their characters is the order of their bytes.
-/

namespace NpcRuntime

structure TextMap (α : Type) where
  entries : List (Text × α)
  sorted : (entries.map Prod.fst).Pairwise (· < ·)
deriving DecidableEq

namespace TextMap

variable {α β : Type}

theorem ext {m m' : TextMap α} (h : m.entries = m'.entries) : m = m' := by
  cases m
  cases m'
  cases h
  rfl

def empty : TextMap α := ⟨[], .nil⟩

/-- An entry put into its place; it replaces the one with its key. -/
def insertEntry (key : Text) (value : α) : List (Text × α) → List (Text × α)
  | [] => [(key, value)]
  | entry :: rest =>
    if key < entry.1 then (key, value) :: entry :: rest
    else if key = entry.1 then (key, value) :: rest
    else entry :: insertEntry key value rest

theorem mem_keys_insertEntry {key key' : Text} {value : α} {entries : List (Text × α)}
    (h : key' ∈ (insertEntry key value entries).map Prod.fst) :
    key' = key ∨ key' ∈ entries.map Prod.fst := by
  induction entries with
  | nil => exact .inl (List.mem_singleton.1 h)
  | cons entry rest ih =>
    unfold insertEntry at h
    split_ifs at h with hlt heq
    · simpa using h
    · simp only [List.map_cons, List.mem_cons] at h ⊢
      rcases h with h | h
      · exact .inl h
      · exact .inr (.inr h)
    · simp only [List.map_cons, List.mem_cons] at h ⊢
      rcases h with h | h
      · exact .inr (.inl h)
      · exact (ih h).imp_right .inr

theorem sorted_insertEntry (key : Text) (value : α) {entries : List (Text × α)}
    (h : (entries.map Prod.fst).Pairwise (· < ·)) :
    ((insertEntry key value entries).map Prod.fst).Pairwise (· < ·) := by
  induction entries with
  | nil => simp [insertEntry]
  | cons entry rest ih =>
    obtain ⟨hentry, hrest⟩ := List.pairwise_cons.1 h
    unfold insertEntry
    split_ifs with hlt heq
    · refine List.pairwise_cons.2 ⟨fun key' hkey' => ?_, h⟩
      rcases List.mem_cons.1 hkey' with rfl | hkey'
      · exact hlt
      · exact hlt.trans (hentry key' hkey')
    · exact List.pairwise_cons.2 ⟨fun key' hkey' => heq ▸ hentry key' hkey', hrest⟩
    · refine List.pairwise_cons.2 ⟨fun key' hkey' => ?_, ih hrest⟩
      rcases mem_keys_insertEntry hkey' with rfl | hkey'
      · exact lt_of_le_of_ne (not_lt.1 hlt) (Ne.symm heq)
      · exact hentry key' hkey'

def insert (m : TextMap α) (entry : Text × α) : TextMap α :=
  ⟨insertEntry entry.1 entry.2 m.entries, sorted_insertEntry _ _ m.sorted⟩

/-- The map of a sequence of entries; later ones replace earlier ones. -/
def ofList (entries : List (Text × α)) : TextMap α := entries.foldl insert empty

end TextMap

end NpcRuntime
