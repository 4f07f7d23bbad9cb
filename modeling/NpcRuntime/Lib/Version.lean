import Mathlib.Order.Basic

/-!
# Versions of a signed document

A version has a number and the digest of what was signed under it. It may be followed by a higher
number or by itself, never by another digest under the same number. This is an order, so that a
history of accepted versions is in order as soon as each version follows the latest one.
-/

namespace NpcRuntime

variable {δ : Type*}

structure Version (δ : Type*) where
  number : Nat
  digest : δ

namespace Version

theorem ext {a b : Version δ} (hnumber : a.number = b.number) (hdigest : a.digest = b.digest) :
    a = b := by
  cases a
  cases b
  congr

/-- `b` may follow `a`: it takes back nothing. -/
instance : LE (Version δ) :=
  ⟨fun a b => a.number ≤ b.number ∧ (a.number = b.number → a.digest = b.digest)⟩

instance : PartialOrder (Version δ) where
  le_refl a := ⟨Nat.le_refl _, fun _ => rfl⟩
  le_trans a b c hab hbc := by
    refine ⟨Nat.le_trans hab.1 hbc.1, ?_⟩
    intro hac
    have hfirst : a.number = b.number := Nat.le_antisymm hab.1 (hac ▸ hbc.1)
    exact (hab.2 hfirst).trans (hbc.2 (hfirst ▸ hac))
  le_antisymm a b hab hba := by
    have hnumber := Nat.le_antisymm hab.1 hba.1
    exact ext hnumber (hab.2 hnumber)

end Version

end NpcRuntime
