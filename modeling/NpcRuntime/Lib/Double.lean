import NpcRuntime.Lib.Json

/-!
# Double-precision numbers

A `double` by its exact value, where it is finite, and the rounding that each operation on doubles
ends with. The operations are taken on values far from the limits of the exponent, so none of them
overflows.
-/

namespace NpcRuntime

/-- A `double`: its exact value, when it is finite. -/
inductive F64 where
  | finite (q : ℚ)
  | notFinite
deriving DecidableEq

/-- The nearest number with 53 significant bits, ties to even. -/
def round64 (q : ℚ) : ℚ :=
  let ulp : ℚ := 2 ^ (max (Int.log 2 |q|) (-1022) - 52)
  Json.roundEven (q / ulp) * ulp

/-- `llround`: the nearest integer, ties away from zero. -/
def llround (q : ℚ) : ℤ :=
  if 0 ≤ q then ⌊q + 1 / 2⌋ else ⌈q - 1 / 2⌉

/-- The conversion to `std::int32_t`, modulo `2 ^ 32`. -/
def toInt32 (n : ℤ) : ℤ := n.bmod (2 ^ 32)

end NpcRuntime
