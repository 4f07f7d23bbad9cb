import Mathlib.Data.Countable.Basic
import Mathlib.Data.List.Nodup
import Mathlib.Logic.Equiv.List
import NpcRuntime.Lib.Bytes

/-!
# `serde_json` at one type

What a type is written as and what is read back from bytes. Both are the business of a library, so
they are a parameter, and `RoundTrips` is what a caller relies on: what is written reads back.
`Serde.ofTexts` is a pair that gives chosen values the texts that they have.
-/

namespace NpcRuntime

instance countableChar : Countable Char := Function.Injective.countable fun _ _ => Char.toNat_inj.1

/-- The bytes of a text of ASCII characters. -/
def ascii (t : List Char) : Bytes := t.map fun c => c.toNat.toUInt8

structure Serde (α : Type*) where
  /-- `serde_json::to_vec`. -/
  toVec : α → Bytes
  /-- `serde_json::from_slice`. -/
  fromSlice : Bytes → Option α

namespace Serde

variable {α : Type*}

def RoundTrips (serde : Serde α) : Prop := ∀ a, serde.fromSlice (serde.toVec a) = some a

section OfTexts

variable [Countable α]

/-- A number for every value. -/
noncomputable def index : α → ℕ := (Countable.exists_injective_nat α).choose

theorem index_injective : Function.Injective (index : α → ℕ) :=
  (Countable.exists_injective_nat α).choose_spec

variable [DecidableEq α]

/-- The text that is listed for the value; the others are written as so many zeros. -/
noncomputable def textOf (texts : List (α × Bytes)) (a : α) : Bytes :=
  match texts.find? fun entry => entry.1 = a with
  | some entry => entry.2
  | none => List.replicate (index a) 0

open Classical in
noncomputable def ofTexts (texts : List (α × Bytes)) : Serde α where
  toVec := textOf texts
  fromSlice bytes := if h : ∃ a, textOf texts a = bytes then some h.choose else none

/-- Texts that differ from each other and are not all zeros tell the values apart. -/
theorem textOf_injective {texts : List (α × Bytes)} (htexts : (texts.map Prod.snd).Nodup)
    (hmarked : ∀ entry ∈ texts, ∃ b ∈ entry.2, b ≠ 0) : Function.Injective (textOf texts) := by
  have hzero : ∀ n, ∀ b ∈ List.replicate n (0 : UInt8), b = 0 := fun n b => List.eq_of_mem_replicate
  intro a a' h
  unfold textOf at h
  cases ha : texts.find? fun entry => entry.1 = a with
  | none =>
    cases ha' : texts.find? fun entry => entry.1 = a' with
    | none =>
      simp only [ha, ha', List.replicate_inj] at h
      exact index_injective h.1
    | some entry' =>
      obtain ⟨b, hb, hne⟩ := hmarked entry' (List.mem_of_find?_eq_some ha')
      simp only [ha, ha'] at h
      exact absurd (hzero _ b (h ▸ hb)) hne
  | some entry =>
    have hentry : entry.1 = a := by simpa using List.find?_some ha
    cases ha' : texts.find? fun entry => entry.1 = a' with
    | none =>
      obtain ⟨b, hb, hne⟩ := hmarked entry (List.mem_of_find?_eq_some ha)
      simp only [ha, ha'] at h
      exact absurd (hzero _ b (h ▸ hb)) hne
    | some entry' =>
      have hentry' : entry'.1 = a' := by simpa using List.find?_some ha'
      simp only [ha, ha'] at h
      have := List.inj_on_of_nodup_map htexts (List.mem_of_find?_eq_some ha)
        (List.mem_of_find?_eq_some ha') h
      rw [← hentry, ← hentry', this]

theorem ofTexts_roundTrips {texts : List (α × Bytes)} (htexts : (texts.map Prod.snd).Nodup)
    (hmarked : ∀ entry ∈ texts, ∃ b ∈ entry.2, b ≠ 0) : (ofTexts texts).RoundTrips := by
  intro a
  have h : ∃ a', textOf texts a' = textOf texts a := ⟨a, rfl⟩
  simp only [ofTexts, dif_pos h]
  exact congrArg some (textOf_injective htexts hmarked h.choose_spec)

end OfTexts

end Serde

end NpcRuntime
