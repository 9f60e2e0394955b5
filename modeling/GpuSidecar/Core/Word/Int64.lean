import Mathlib.Algebra.Group.Int.Defs
import Mathlib.Algebra.Group.Nat.Defs

/-!
# Signed 64-bit arithmetic

Integers of the language are kept as mathematical integers, and every operation whose
result can leave the range is followed by a reduction into it. An operation is exact if
and only if its mathematical result lies in the range.
-/

namespace GpuSidecar.Word

/-- The value of a result in two's complement. -/
def int64 (n : ℤ) : ℤ := n.bmod (2 ^ 64)

/-- A value that needs no reduction. -/
def InRange (n : ℤ) : Prop := -2 ^ 63 ≤ n ∧ n < 2 ^ 63

/-- A reduced value is in the range. -/
theorem inRange_int64 (n : ℤ) : InRange (int64 n) := by
  have hle : -(((2 ^ 64 : ℕ) : ℤ) / 2) ≤ n.bmod (2 ^ 64) := Int.le_bmod (by decide)
  have hlt : n.bmod (2 ^ 64) < (((2 ^ 64 : ℕ) : ℤ) + 1) / 2 := Int.bmod_lt (by decide)
  rw [InRange, int64]
  omega

/-- A value in the range is not changed. -/
theorem int64_eq_self {n : ℤ} (h : InRange n) : int64 n = n := by
  rw [InRange] at h
  apply Int.bmod_eq_of_le
  · omega
  · omega

/-- An operation is exact if and only if its result is in the range. -/
theorem int64_eq_self_iff (n : ℤ) : int64 n = n ↔ InRange n := by
  constructor
  · intro h
    rw [← h]
    exact inRange_int64 n
  · exact int64_eq_self

end GpuSidecar.Word
