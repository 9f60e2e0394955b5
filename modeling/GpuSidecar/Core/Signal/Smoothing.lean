import Mathlib.Algebra.Order.Field.Basic
import Mathlib.Order.Interval.Set.UnorderedInterval
import Mathlib.Tactic.Ring

/-!
# Asymmetric smoothing

A smoothed value follows a signal by moving a fixed share of the way to each new
reading, with one share for readings below it and another for the rest. When the share
for falling is the larger of the two, the new value is the smaller of the two moves.
Each move is monotone in the old value and in the reading, so the smoothing is monotone
in both together: no case split on which side two signals are on.
-/

namespace GpuSidecar.Signal

variable {K : Type*} [Field K]

/-- The value moved by the share `a` of the way to the reading `x`. -/
def blend (a value x : K) : K := a * x + (1 - a) * value

theorem blend_eq_add (a value x : K) : blend a value x = value + a * (x - value) := by
  rw [blend]
  ring

theorem blend_self (a value : K) : blend a value value = value := by
  rw [blend_eq_add, sub_self, mul_zero, add_zero]

variable [LinearOrder K]

/-- Moves by `fall` to a lower reading and by `rise` to any other. -/
def follow (fall rise value x : K) : K :=
  if x < value then blend fall value x else blend rise value x

variable [IsStrictOrderedRing K] {a fall rise value value' x x' : K}

theorem blend_mono (h0 : 0 ≤ a) (h1 : a ≤ 1) (hvalue : value ≤ value') (hx : x ≤ x') :
    blend a value x ≤ blend a value' x' :=
  add_le_add (mul_le_mul_of_nonneg_left hx h0)
    (mul_le_mul_of_nonneg_left hvalue (sub_nonneg.mpr h1))

/-- A blend lies between the old value and the reading. -/
theorem blend_mem_uIcc (h0 : 0 ≤ a) (h1 : a ≤ 1) (value x : K) :
    blend a value x ∈ Set.uIcc value x := by
  constructor
  · calc min value x = blend a (min value x) (min value x) := (blend_self a _).symm
      _ ≤ blend a value x := blend_mono h0 h1 (min_le_left _ _) (min_le_right _ _)
  · calc blend a value x ≤ blend a (max value x) (max value x) :=
        blend_mono h0 h1 (le_max_left _ _) (le_max_right _ _)
      _ = max value x := blend_self a _

theorem follow_eq_min (h : rise ≤ fall) (value x : K) :
    follow fall rise value x = min (blend fall value x) (blend rise value x) := by
  rw [follow]
  split_ifs with hx
  · refine (min_eq_left ?_).symm
    rw [blend_eq_add, blend_eq_add]
    exact add_le_add_right (mul_le_mul_of_nonpos_right h (sub_neg.mpr hx).le) value
  · refine (min_eq_right ?_).symm
    rw [blend_eq_add, blend_eq_add]
    exact add_le_add_right
      (mul_le_mul_of_nonneg_right h (sub_nonneg.mpr (not_lt.mp hx))) value

theorem follow_mono (h0 : 0 ≤ rise) (h : rise ≤ fall) (h1 : fall ≤ 1)
    (hvalue : value ≤ value') (hx : x ≤ x') :
    follow fall rise value x ≤ follow fall rise value' x' := by
  rw [follow_eq_min h, follow_eq_min h]
  exact min_le_min (blend_mono (h0.trans h) h1 hvalue hx) (blend_mono h0 (h.trans h1) hvalue hx)

theorem follow_mem_uIcc (h0 : 0 ≤ rise) (h : rise ≤ fall) (h1 : fall ≤ 1) (value x : K) :
    follow fall rise value x ∈ Set.uIcc value x := by
  rw [follow]
  split_ifs
  · exact blend_mem_uIcc (h0.trans h) h1 value x
  · exact blend_mem_uIcc h0 (h.trans h1) value x

end GpuSidecar.Signal
