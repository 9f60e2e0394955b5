import GpuSidecar.Core.Number.Interpolation
import GpuSidecar.Models.Dataplane.Snapshot
import GpuSidecar.Models.Engine.Availability
import Mathlib.Data.List.GetD
import Mathlib.Data.Rat.Floor

/-!
# Percentiles of latencies and waits

The probe latencies and the queue waits have a percentile function each, which differ in
that one sorts first. Both interpolate the sorted entries, continued by the last one, at a
rank that grows with the percentage. They are therefore monotone and stay within the
entries, and every index they read is one of the list.
-/

namespace GpuSidecar.Engine

open Interpolation

/-- A read of a slice, where an index out of range is a panic. -/
def read? (l : List ℚ) (i : ℤ) : Option ℚ := if 0 ≤ i then l[i.toNat]? else none

/-- The lines that both percentile functions share, with every index checked. -/
def interpolate? (cp : List ℚ) (p : ℚ) : Option ℚ :=
  if cp.length = 1 then read? cp 0
  else
    let rank := p / 100 * ((cp.length : ℤ) - 1 : ℤ)
    let lo := rank.num.tdiv rank.den
    if (cp.length : ℤ) - 1 ≤ lo then read? cp (cp.length - 1)
    else
      let frac := rank - lo
      (read? cp lo).bind fun a => (read? cp (lo + 1)).map fun b => a + frac * (b - a)

/-- `percentile` with every index checked. -/
def percentile? (sorted : List ℚ) (p : ℚ) : Option ℚ :=
  if sorted.length = 0 then some 0 else interpolate? sorted p

/-- `pctile` with every index checked. -/
def pctile? (s : List ℚ) (p : ℚ) : Option ℚ :=
  if s.length = 0 then some 0 else interpolate? (s.insertionSort (· ≤ ·)) p

/-! ### The entries as a sequence -/

/-- The entries of a list, continued by its last one. -/
def entry (l : List ℚ) (i : ℕ) : ℚ := l.getD (min i (l.length - 1)) 0

/-- The rank of a percentage. -/
def rankOf (l : List ℚ) (p : ℚ) : ℚ := p / 100 * ((l.length - 1 : ℕ) : ℚ)

theorem rankOf_nonneg (l : List ℚ) {p : ℚ} (hp : 0 ≤ p) : 0 ≤ rankOf l p :=
  mul_nonneg (div_nonneg hp (by decide)) (Nat.cast_nonneg _)

theorem rankOf_mono (l : List ℚ) {p q : ℚ} (hpq : p ≤ q) : rankOf l p ≤ rankOf l q :=
  mul_le_mul_of_nonneg_right (div_le_div_of_nonneg_right hpq (by decide)) (Nat.cast_nonneg _)

theorem entry_eq_getElem {l : List ℚ} (hl : l ≠ []) (i : ℕ) :
    ∃ h : min i (l.length - 1) < l.length, entry l i = l[min i (l.length - 1)] := by
  have hlen := List.length_pos_of_ne_nil hl
  exact ⟨by omega, List.getD_eq_getElem _ _ (by omega)⟩

theorem entry_mem {l : List ℚ} (hl : l ≠ []) (i : ℕ) : entry l i ∈ l := by
  obtain ⟨h, hentry⟩ := entry_eq_getElem hl i
  rw [hentry]
  exact List.getElem_mem h

theorem entry_mono {l : List ℚ} (hl : l ≠ []) (hsorted : l.Pairwise (· ≤ ·)) :
    Monotone (entry l) := by
  intro i j hij
  obtain ⟨hi, hentryi⟩ := entry_eq_getElem hl i
  obtain ⟨hj, hentryj⟩ := entry_eq_getElem hl j
  rw [hentryi, hentryj]
  exact hsorted.sortedLE.getElem_le_getElem_of_le (by omega)

theorem entry_of_le {l : List ℚ} {i : ℕ} (h : l.length - 1 ≤ i) : entry l i = l.getLastD 0 := by
  rw [entry, min_eq_right h, List.getD_eq_getElem?_getD, ← List.getLast?_eq_getElem?,
    List.getLastD_eq_getLast?]

theorem entry_of_lt {l : List ℚ} {i : ℕ} (h : i < l.length) : entry l i = l.getD i 0 := by
  rw [entry, min_eq_left (by omega)]

/-- A percentile is the interpolated entry at the rank. -/
theorem percentile_eq_lerp {l : List ℚ} (hl : l ≠ []) (p : ℚ) :
    percentile l p = lerp (entry l) (rankOf l p) := by
  have hlen := List.length_pos_of_ne_nil hl
  have hfloor : (rankOf l p).floor.toNat = ⌊rankOf l p⌋₊ := by
    rw [Rat.floor_def, ← Rat.floor_def', Int.floor_toNat]
  rw [percentile, if_neg hlen.ne', lerp]
  by_cases hlast : l.length - 1 ≤ ⌊rankOf l p⌋₊
  · rw [entry_of_le hlast, entry_of_le (Nat.le_succ_of_le hlast), sub_self, mul_zero, add_zero]
    by_cases hone : l.length = 1
    · obtain ⟨x, rfl⟩ := List.length_eq_one_iff.mp hone
      rfl
    · rw [if_neg hone]
      exact if_pos (hfloor.symm ▸ hlast)
  · have hone : l.length ≠ 1 := by omega
    rw [entry_of_lt (by omega), entry_of_lt (by omega), if_neg hone]
    simp only [← hfloor] at hlast ⊢
    exact if_neg hlast

theorem pctile_eq_percentile (s : List ℚ) (p : ℚ) :
    Dataplane.pctile s p = percentile (s.insertionSort (· ≤ ·)) p := by
  simp only [Dataplane.pctile, percentile, List.length_insertionSort]

/-! ### The indices -/

theorem tdiv_eq_floor {r : ℚ} (hr : 0 ≤ r) : r.num.tdiv r.den = ⌊r⌋₊ := by
  rw [Int.natCast_floor_eq_floor hr, Rat.floor_def',
    Int.tdiv_eq_ediv_of_nonneg (Rat.num_nonneg.mpr hr)]

theorem read?_natCast {l : List ℚ} {i : ℕ} (h : i < l.length) : read? l i = some (l.getD i 0) := by
  rw [read?, if_pos (Int.natCast_nonneg i), Int.toNat_natCast, List.getElem?_eq_getElem h,
    List.getD_eq_getElem]

/-- Every index that the percentile functions read is one of the list. -/
theorem interpolate?_eq {l : List ℚ} (hl : l ≠ []) {p : ℚ} (hp : 0 ≤ p) :
    interpolate? l p = some (percentile l p) := by
  have hlen := List.length_pos_of_ne_nil hl
  have hpred : (l.length : ℤ) - 1 = ((l.length - 1 : ℕ) : ℤ) := (Nat.cast_pred hlen).symm
  have hrank : p / 100 * ((l.length - 1 : ℕ) : ℚ) = rankOf l p := rfl
  have hlo := tdiv_eq_floor (rankOf_nonneg l hp)
  rw [percentile_eq_lerp hl, lerp, interpolate?]
  simp only [hpred, Int.cast_natCast, hrank, hlo, Nat.cast_le]
  by_cases hlast : l.length - 1 ≤ ⌊rankOf l p⌋₊
  · have hread : read? l (l.length - 1 : ℕ) = some (l.getLastD 0) := by
      rw [read?_natCast (by omega), ← entry_of_lt (by omega), entry_of_le le_rfl]
    rw [entry_of_le hlast, entry_of_le (Nat.le_succ_of_le hlast), sub_self, mul_zero, add_zero,
      if_pos hlast, hread]
    by_cases hone : l.length = 1
    · rwa [if_pos hone, ← Nat.cast_zero, show 0 = l.length - 1 by omega]
    · rw [if_neg hone]
  · have hone : l.length ≠ 1 := by omega
    have hsucc : (⌊rankOf l p⌋₊ : ℤ) + 1 = (⌊rankOf l p⌋₊ + 1 : ℕ) := (Nat.cast_succ _).symm
    rw [if_neg hone, if_neg hlast, hsucc, read?_natCast (by omega), read?_natCast (by omega),
      entry_of_lt (by omega), entry_of_lt (by omega)]
    rfl

/-! ### Bounds and order -/

theorem percentile_mono {l : List ℚ} (hl : l ≠ []) (hsorted : l.Pairwise (· ≤ ·)) {p q : ℚ}
    (hp : 0 ≤ p) (hpq : p ≤ q) : percentile l p ≤ percentile l q := by
  rw [percentile_eq_lerp hl, percentile_eq_lerp hl]
  exact lerp_mono (entry_mono hl hsorted) (rankOf_nonneg l hp) (rankOf_mono l hpq)

theorem percentile_between {l : List ℚ} (hl : l ≠ []) (hsorted : l.Pairwise (· ≤ ·)) {p : ℚ}
    (hp : 0 ≤ p) :
    ∃ lo ∈ l, ∃ hi ∈ l, (∀ x ∈ l, lo ≤ x ∧ x ≤ hi) ∧
      lo ≤ percentile l p ∧ percentile l p ≤ hi := by
  have hmono := entry_mono hl hsorted
  have hbounds : ∀ i, entry l 0 ≤ entry l i ∧ entry l i ≤ entry l (l.length - 1) := by
    intro i
    refine ⟨hmono (Nat.zero_le i), ?_⟩
    rcases le_total i (l.length - 1) with hi | hi
    · exact hmono hi
    · rw [entry_of_le hi, entry_of_le le_rfl]
  refine ⟨entry l 0, entry_mem hl 0, entry l (l.length - 1), entry_mem hl _, ?_, ?_⟩
  · intro x hx
    obtain ⟨i, hi, rfl⟩ := List.getElem_of_mem hx
    rw [← List.getD_eq_getElem l 0 hi, ← entry_of_lt hi]
    exact hbounds i
  · rw [percentile_eq_lerp hl]
    exact ⟨(hbounds _).1.trans (floor_le_lerp hmono (rankOf_nonneg l hp)),
      (lerp_le_succ hmono _).trans (hbounds _).2⟩

theorem sorted_insertionSort (s : List ℚ) : (s.insertionSort (· ≤ ·)).Pairwise (· ≤ ·) :=
  List.pairwise_insertionSort _ s

theorem insertionSort_ne_nil {s : List ℚ} (hs : s ≠ []) : s.insertionSort (· ≤ ·) ≠ [] := by
  intro h
  exact hs (List.length_eq_zero_iff.mp ((List.length_insertionSort _ s).symm.trans
    (List.length_eq_zero_iff.mpr h)))

theorem pctile_mono (s : List ℚ) {p q : ℚ} (hp : 0 ≤ p) (hpq : p ≤ q) :
    Dataplane.pctile s p ≤ Dataplane.pctile s q := by
  rw [pctile_eq_percentile, pctile_eq_percentile]
  by_cases hs : s = []
  · subst hs
    exact le_rfl
  · exact percentile_mono (insertionSort_ne_nil hs) (sorted_insertionSort s) hp hpq

theorem recomputeWindow_latency {d : DeviceHistory} (now : ℤ)
    (h : d.rel.probeLatencyP50Ms ≤ d.rel.probeLatencyP95Ms) :
    (d.recomputeWindow now).rel.probeLatencyP50Ms ≤
      (d.recomputeWindow now).rel.probeLatencyP95Ms := by
  simp only [DeviceHistory.recomputeWindow]
  split_ifs with hlats
  · exact percentile_mono (List.ne_nil_of_length_pos hlats) (sorted_insertionSort _)
      (by decide) (by decide)
  · exact h

theorem call_latency {d : DeviceHistory} (h : d.rel.probeLatencyP50Ms ≤ d.rel.probeLatencyP95Ms)
    (c : HistoryCall) :
    (d.call c).rel.probeLatencyP50Ms ≤ (d.call c).rel.probeLatencyP95Ms := by
  cases hc : c.probe? with
  | none =>
    have hsame := (d.call_of_probe?_eq_none hc).2
    simp only [DeviceHistory.figures, Prod.mk.injEq] at hsame
    rwa [hsame.2.2.1, hsame.2.2.2]
  | some p =>
    cases c with
    | recordProbe ok latencyMs mono wall => exact recomputeWindow_latency mono h
    | _ => cases hc

theorem calls_latency (probeCap pointCap eventCap : ℕ+) (windowSec : ℚ) (cs : List HistoryCall) :
    let rel := ((newDeviceHistory probeCap pointCap eventCap windowSec).calls cs).rel
    rel.probeLatencyP50Ms ≤ rel.probeLatencyP95Ms := by
  induction cs using List.reverseRecOn with
  | nil => exact le_rfl
  | append_singleton cs c ih =>
    rw [DeviceHistory.calls_concat]
    exact call_latency ih c

/-- The percentile functions are sound: on a list and on its sorted entries they read valid
indices only and return the same value, which lies between the least and the greatest entry
and grows with the percentage. So the median of the probe latencies and of the queue waits
never exceeds their 95th percentile. -/
theorem percentile_sound {s sorted : List ℚ} (hs : s ≠ []) (hperm : sorted.Perm s)
    (hsorted : sorted.Pairwise (· ≤ ·)) {p q : ℚ} (hp : 0 ≤ p) (hpq : p ≤ q) :
    (percentile? sorted p = some (percentile sorted p) ∧
      pctile? s p = some (Dataplane.pctile s p)) ∧
    Dataplane.pctile s p = percentile sorted p ∧
    (∃ lo ∈ s, ∃ hi ∈ s, (∀ x ∈ s, lo ≤ x ∧ x ≤ hi) ∧
      lo ≤ percentile sorted p ∧ percentile sorted p ≤ hi) ∧
    (percentile sorted p ≤ percentile sorted q ∧
      Dataplane.pctile s p ≤ Dataplane.pctile s q) ∧
    (∀ probeCap pointCap eventCap windowSec cs,
      let rel := ((newDeviceHistory probeCap pointCap eventCap windowSec).calls cs).rel
      rel.probeLatencyP50Ms ≤ rel.probeLatencyP95Ms) ∧
    ∀ (queue : Dataplane.Queue) now enqueuedMono,
      let snapshot := (queue.snapshot now enqueuedMono).2
      snapshot.waitP50Ms ≤ snapshot.waitP95Ms := by
  have heq : s.insertionSort (· ≤ ·) = sorted :=
    ((List.perm_insertionSort _ s).trans hperm.symm).eq_of_pairwise'
      (sorted_insertionSort s) hsorted
  have hne : sorted ≠ [] := fun h => hs (List.nil_perm.mp (h ▸ hperm))
  have hvalue : Dataplane.pctile s p = percentile sorted p := by rw [pctile_eq_percentile, heq]
  refine ⟨⟨?_, ?_⟩, hvalue, ?_,
    ⟨percentile_mono hne hsorted hp hpq, pctile_mono s hp hpq⟩, calls_latency,
    fun queue now enqueuedMono => pctile_mono _ (by decide) (by decide)⟩
  · rw [percentile?, if_neg (List.length_pos_of_ne_nil hne).ne', interpolate?_eq hne hp]
  · rw [pctile?, if_neg (List.length_pos_of_ne_nil hs).ne', heq, interpolate?_eq hne hp, hvalue]
  · obtain ⟨lo, hlo, hi, hhi, hbounds, hbetween⟩ := percentile_between hne hsorted hp
    exact ⟨lo, hperm.subset hlo, hi, hperm.subset hhi,
      fun x hx => hbounds x (hperm.symm.subset hx), hbetween⟩

/-- Two percentiles of three values, in and out of order. -/
theorem threeValues_percentile :
    Dataplane.pctile [30, 10, 20] 25 = percentile [10, 20, 30] 25 ∧
      percentile? [10, 20, 30] 25 = some 15 ∧
      percentile [10, 20, 30] 25 ≤ percentile [10, 20, 30] 95 := by
  have hsound := percentile_sound (s := [30, 10, 20]) (by decide)
    (show [10, 20, 30].Perm _ by decide) (by decide) (show (0 : ℚ) ≤ 25 by decide)
    (show (25 : ℚ) ≤ 95 by decide)
  exact ⟨hsound.2.1, hsound.1.1.trans (by decide +kernel), hsound.2.2.2.1.1⟩

end GpuSidecar.Engine
