import Mathlib.Algebra.Order.Floor.Semiring
import Mathlib.Tactic.Linarith

/-!
# Linear interpolation of a sequence

The value of a sequence at a rank between two of its indices. Along a monotone sequence it
lies between the entries on both sides of the rank, and grows with the rank: within one
cell because the slope is not negative, and across cells because the entries between them
separate the values.
-/

namespace GpuSidecar.Interpolation

variable {K : Type*} [Field K] [LinearOrder K] [IsStrictOrderedRing K] {f : ℕ → K} {r s : K}

theorem slope_nonneg (hf : Monotone f) (n : ℕ) : 0 ≤ f (n + 1) - f n :=
  sub_nonneg.mpr (hf n.le_succ)

variable [FloorSemiring K]

/-- The value at a rank, by linear interpolation between the entries around it. -/
def lerp (f : ℕ → K) (r : K) : K := f ⌊r⌋₊ + (r - ⌊r⌋₊) * (f (⌊r⌋₊ + 1) - f ⌊r⌋₊)

theorem floor_le_lerp (hf : Monotone f) (hr : 0 ≤ r) : f ⌊r⌋₊ ≤ lerp f r :=
  le_add_of_nonneg_right
    (mul_nonneg (sub_nonneg.mpr (Nat.floor_le hr)) (slope_nonneg hf _))

theorem lerp_le_succ (hf : Monotone f) (r : K) : lerp f r ≤ f (⌊r⌋₊ + 1) := by
  have hfrac : r - ⌊r⌋₊ ≤ 1 := by
    have := (Nat.lt_floor_add_one r).le
    linarith
  calc lerp f r ≤ f ⌊r⌋₊ + (f (⌊r⌋₊ + 1) - f ⌊r⌋₊) :=
        add_le_add_right (mul_le_of_le_one_left (slope_nonneg hf _) hfrac) _
    _ = f (⌊r⌋₊ + 1) := add_sub_cancel _ _

theorem lerp_mono (hf : Monotone f) (hr : 0 ≤ r) (hrs : r ≤ s) : lerp f r ≤ lerp f s := by
  rcases (Nat.floor_mono hrs).lt_or_eq with hcell | hcell
  · calc lerp f r ≤ f (⌊r⌋₊ + 1) := lerp_le_succ hf r
      _ ≤ f ⌊s⌋₊ := hf hcell
      _ ≤ lerp f s := floor_le_lerp hf (hr.trans hrs)
  · rw [lerp, lerp, ← hcell]
    gcongr
    exact slope_nonneg hf _

end GpuSidecar.Interpolation
