import Mathlib.Data.List.AList
import Mathlib.Order.Lattice

/-!
# Removing the least entries of a map

Entries leave a map one at a time, each time one of least score among those still
there. Which one of several goes is left open. However the ties fall, what leaves scores
no higher than anything that stays, and the rest of the map is as before.
-/

namespace GpuSidecar.Map

variable {α γ : Type*} [DecidableEq α]

theorem length_keys_erase {m : AList fun _ : α => γ} {k : α} {v : γ} (h : m.lookup k = some v) :
    (m.erase k).keys.length + 1 = m.keys.length := by
  have hmem : k ∈ m.keys := AList.mem_keys.mp (AList.lookup_isSome.mp (by rw [h]; rfl))
  rw [AList.keys_erase, List.length_erase_of_mem hmem]
  exact Nat.succ_pred_eq_of_pos (List.length_pos_of_mem hmem)

theorem lookup_of_lookup_erase {m : AList fun _ : α => γ} {k k' : α} {v : γ}
    (h : (m.erase k).lookup k' = some v) : m.lookup k' = some v := by
  by_cases hk : k' = k
  · rw [hk, AList.lookup_erase] at h
    cases h
  · rwa [AList.lookup_erase_ne hk] at h

variable {τ : Type*} [LinearOrder τ]

/-- The removal of a number of entries, each of least score at its turn. -/
inductive LeastOut (score : γ → τ) :
    ℕ → (AList fun _ : α => γ) → (AList fun _ : α => γ) → Prop
  | done (m : AList fun _ : α => γ) : LeastOut score 0 m m
  | more {n : ℕ} {m m' : AList fun _ : α => γ} {k : α} {v : γ}
      (hk : m.lookup k = some v)
      (hleast : ∀ k' v', m.lookup k' = some v' → score v ≤ score v')
      (h : LeastOut score n (m.erase k) m') : LeastOut score (n + 1) m m'

namespace LeastOut

variable {score : γ → τ} {n : ℕ} {m m' : AList fun _ : α => γ}

theorem length_keys (h : LeastOut score n m m') : m'.keys.length + n = m.keys.length := by
  induction h with
  | done => rfl
  | more hk _ _ ih =>
    rw [← length_keys_erase hk, ← ih, Nat.add_assoc]

theorem lookup (h : LeastOut score n m m') {k : α} {v : γ} (hv : m'.lookup k = some v) :
    m.lookup k = some v := by
  induction h with
  | done => exact hv
  | more _ _ _ ih => exact lookup_of_lookup_erase (ih hv)

/-- What leaves scores no higher than what stays. -/
theorem score_le (h : LeastOut score n m m') {k k' : α} {v v' : γ} (hv : m.lookup k = some v)
    (hout : m'.lookup k = none) (hv' : m'.lookup k' = some v') : score v ≤ score v' := by
  induction h with
  | done => cases hv.symm.trans hout
  | @more n m m' l w hl hleast h ih =>
    by_cases hk : k = l
    · obtain rfl : v = w := Option.some.inj (hv.symm.trans (hk ▸ hl))
      exact hleast k' v' (lookup_of_lookup_erase (h.lookup hv'))
    · exact ih (by rwa [AList.lookup_erase_ne hk]) hout hv'

/-- An entry that scores higher than all others stays as long as any does. -/
theorem lookup_greatest (h : LeastOut score n m m') (hn : n < m.keys.length) {k : α} {v : γ}
    (hv : m.lookup k = some v)
    (hgreatest : ∀ k' v', k' ≠ k → m.lookup k' = some v' → score v' < score v) :
    m'.lookup k = some v := by
  cases hkept : m'.lookup k with
  | some w => rw [← hv, h.lookup hkept]
  | none =>
    have hlength := h.length_keys
    have hpos : 0 < m'.keys.length := by omega
    obtain ⟨k', hk'⟩ := List.exists_mem_of_length_pos hpos
    obtain ⟨v', hv'⟩ := Option.isSome_iff_exists.mp
      (AList.lookup_isSome.mpr (AList.mem_keys.mpr hk'))
    have hne : k' ≠ k := by
      rintro rfl
      cases hkept.symm.trans hv'
    exact absurd (h.score_le hv hkept hv') (hgreatest k' v' hne (h.lookup hv')).not_ge

end LeastOut

end GpuSidecar.Map
