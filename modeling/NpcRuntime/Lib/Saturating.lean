import Mathlib.Order.Lattice
import Mathlib.Algebra.Order.Group.Nat
import Mathlib.Algebra.BigOperators.Group.List.Basic
import Mathlib.Algebra.Ring.Nat

/-!
# Saturating 64-bit addition

Rust's `u64::saturating_add` on values read as natural numbers: the exact sum, clamped to
`u64::MAX`. `u64::saturating_sub` is the truncated subtraction of `Nat` and needs no name.

A chain of saturating additions is the clamped exact sum (`satAdd_assoc`, `satSum_eq`), so every
comparison of two chains reduces to a comparison of exact sums.
-/

namespace NpcRuntime

/-- `u64::MAX`. -/
def u64Max : Nat := 2 ^ 64 - 1

/-- `u64::saturating_add`. -/
def satAdd (a b : Nat) : Nat := min (a + b) u64Max

theorem satAdd_mono {a b c d : Nat} (hac : a ≤ c) (hbd : b ≤ d) : satAdd a b ≤ satAdd c d :=
  min_le_min (Nat.add_le_add hac hbd) le_rfl

theorem satAdd_min_left (a b : Nat) : satAdd (min a u64Max) b = min (a + b) u64Max := by
  simp only [satAdd]
  omega

theorem satAdd_assoc (a b c : Nat) : satAdd (satAdd a b) c = min (a + b + c) u64Max :=
  satAdd_min_left (a + b) c

/-- The left fold a loop over `saturating_add` computes. -/
def satSum (xs : List Nat) : Nat := xs.foldl satAdd 0

theorem foldl_satAdd_min (xs : List Nat) (a : Nat) :
    xs.foldl satAdd (min a u64Max) = min (a + xs.sum) u64Max := by
  induction xs generalizing a with
  | nil => simp
  | cons x xs ih => rw [List.foldl_cons, satAdd_min_left, ih, List.sum_cons, Nat.add_assoc]

/-- A saturating fold is the clamped exact sum, whatever the order of its terms. -/
theorem satSum_eq (xs : List Nat) : satSum xs = min xs.sum u64Max := by
  have h := foldl_satAdd_min xs 0
  rwa [Nat.zero_min, Nat.zero_add] at h

end NpcRuntime
