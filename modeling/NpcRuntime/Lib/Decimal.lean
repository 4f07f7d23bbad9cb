import Mathlib.Data.List.Basic
import NpcRuntime.Lib.Text

/-!
# Integers as text, and texts with a last field

Decimals determine the number (`showInt_inj`) and hold no separator. A text that ends in a separator
and a field without one determines both (`append_field_inj`), so that formatted keys can be taken
apart from behind.
-/

namespace NpcRuntime

theorem toDigits_inj {m n : Nat} (h : Nat.toDigits 10 m = Nat.toDigits 10 n) : m = n := by
  rw [← @Nat.ofDigitChars_ten_toDigits m, ← @Nat.ofDigitChars_ten_toDigits n, h]

/-- A character that is no digit is not in a decimal. -/
theorem notMem_toDigits {c : Char} (hc : c.isDigit = false) (n : Nat) :
    c ∉ Nat.toDigits 10 n := by
  intro hmem
  rw [Nat.isDigit_of_mem_toDigits (by decide) (by decide) hmem] at hc
  cases hc

/-- An integer in decimal. -/
def showInt (n : Int) : Text :=
  if 0 ≤ n then Nat.toDigits 10 n.toNat else '-' :: Nat.toDigits 10 n.natAbs

theorem showInt_inj {m n : Int} (h : showInt m = showInt n) : m = n := by
  have hsign : ∀ k l : Nat, Nat.toDigits 10 k ≠ '-' :: Nat.toDigits 10 l := by
    intro k l heq
    exact notMem_toDigits (by decide) k (heq ▸ List.mem_cons_self : '-' ∈ Nat.toDigits 10 k)
  unfold showInt at h
  by_cases hm : 0 ≤ m
  · by_cases hn : 0 ≤ n
    · rw [if_pos hm, if_pos hn] at h
      have := toDigits_inj h
      omega
    · rw [if_pos hm, if_neg hn] at h
      exact absurd h (hsign _ _)
  · by_cases hn : 0 ≤ n
    · rw [if_neg hm, if_pos hn] at h
      exact absurd h.symm (hsign _ _)
    · rw [if_neg hm, if_neg hn] at h
      have := toDigits_inj (List.cons.inj h).2
      omega

theorem colon_notMem_showInt (n : Int) : ':' ∉ showInt n := by
  unfold showInt
  by_cases hn : 0 ≤ n
  · rw [if_pos hn]
    exact notMem_toDigits (by decide) _
  · rw [if_neg hn, List.mem_cons, not_or]
    exact ⟨by decide, notMem_toDigits (by decide) _⟩

/-- **The last field.** What stands before the last separator and what stands behind it. -/
theorem append_field_inj {α : Type*} {c : α} {a a' b b' : List α} (hb : c ∉ b) (hb' : c ∉ b')
    (h : a ++ c :: b = a' ++ c :: b') : a = a' ∧ b = b' := by
  rcases List.append_eq_append_iff.1 h with ⟨mid, hleft, hright⟩ | ⟨mid, hleft, hright⟩
  · cases mid with
    | nil =>
      rw [List.append_nil] at hleft
      exact ⟨hleft.symm, (List.cons.inj hright).2⟩
    | cons d mid =>
      obtain ⟨rfl, rfl⟩ := List.cons.inj hright
      exact absurd (List.mem_append_right _ List.mem_cons_self) hb
  · cases mid with
    | nil =>
      rw [List.append_nil] at hleft
      exact ⟨hleft, (List.cons.inj hright).2.symm⟩
    | cons d mid =>
      obtain ⟨rfl, rfl⟩ := List.cons.inj hright
      exact absurd (List.mem_append_right _ List.mem_cons_self) hb'

end NpcRuntime
