import Mathlib.Algebra.Field.Rat
import Mathlib.Algebra.Order.Ring.Cast
import Mathlib.Algebra.Order.Ring.Rat

/-!
# Instants and durations

Instants are integer nanoseconds counted from the zero instant, and durations are
signed 64-bit nanoseconds. The difference of two instants saturates at the bounds
of a duration, as the standard library documents.
-/

namespace GpuSidecar.Time

/-- The duration in seconds, exactly. -/
def seconds (d : ℤ) : ℚ := (d : ℚ) / 1000000000

/-- The duration in whole milliseconds, rounded toward zero. -/
def milliseconds (d : ℤ) : ℤ := d.tdiv 1000000

/-- The duration in whole microseconds, rounded toward zero. -/
def microseconds (d : ℤ) : ℤ := d.tdiv 1000

/-- A number of seconds as a duration, rounded toward zero. -/
def ofSeconds (s : ℚ) : ℤ := (s * 1000000000).num.tdiv (s * 1000000000).den

/-- The saturating difference of two instants. -/
def sub (t u : ℤ) : ℤ := max (-2 ^ 63) (min (2 ^ 63 - 1) (t - u))

/-- A duration that is not negative has milliseconds that are not negative. -/
theorem milliseconds_nonneg {d : ℤ} (h : 0 ≤ d) : 0 ≤ milliseconds d :=
  Int.tdiv_nonneg h (by decide)

theorem ofSeconds_nonneg {s : ℚ} (h : 0 ≤ s) : 0 ≤ ofSeconds s :=
  Int.tdiv_nonneg (Rat.num_nonneg.mpr (mul_nonneg h (by decide))) (Int.natCast_nonneg _)

@[simp] theorem sub_self (t : ℤ) : sub t t = 0 := by
  simp [sub]

theorem sub_mono {t t' : ℤ} (h : t ≤ t') (u : ℤ) : sub t u ≤ sub t' u :=
  max_le_max_left _ (min_le_min_left _ (by omega))

theorem sub_anti {u u' : ℤ} (h : u ≤ u') (t : ℤ) : sub t u' ≤ sub t u :=
  max_le_max_left _ (min_le_min_left _ (by omega))

theorem sub_nonneg_of_le {t u : ℤ} (h : u ≤ t) : 0 ≤ sub t u :=
  (sub_self u).symm.le.trans (sub_mono h u)

theorem seconds_le_iff {d d' : ℤ} : seconds d ≤ seconds d' ↔ d ≤ d' := by
  rw [seconds, seconds, div_le_div_iff_of_pos_right (by decide), Int.cast_le]

theorem seconds_pos {d : ℤ} (h : 0 < d) : 0 < seconds d :=
  div_pos (Int.cast_pos.mpr h) (by decide)

@[simp] theorem seconds_zero : seconds 0 = 0 := by
  simp [seconds]

end GpuSidecar.Time
