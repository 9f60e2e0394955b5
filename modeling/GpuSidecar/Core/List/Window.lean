import Mathlib.Data.List.DropRight
import Mathlib.Order.Lattice

/-!
# Windows onto a log

A log of instants is read from a cutoff on, and pruned from the front. A cutoff that only
moves forward never asks for what pruning dropped. If the log is in order, and the latest
entries alone are kept as well, then pruning a pruned log is pruning the whole one: an
entry that was dropped for room has as many entries behind it as there is room for, and
all of them outlive it.
-/

namespace GpuSidecar.Window

section Latest

variable {α : Type*} {l m : List α} {n : ℕ}

theorem rtake_of_length_le (h : l.length ≤ n) : l.rtake n = l := by
  rw [List.rtake, Nat.sub_eq_zero_of_le h, List.drop_zero]

theorem rtake_append_of_le (h : n ≤ m.length) : (l ++ m).rtake n = m.rtake n := by
  rw [List.rtake, List.rtake, List.length_append, List.drop_append]
  have hall : l.length ≤ l.length + m.length - n := by omega
  rw [List.drop_eq_nil_of_le hall, List.nil_append]
  congr 1
  omega

theorem length_rtake (l : List α) (n : ℕ) : (l.rtake n).length = min n l.length := by
  rw [List.rtake, List.length_drop]
  omega

theorem rtake_sublist (l : List α) (n : ℕ) : (l.rtake n).Sublist l := List.drop_sublist _ _

/-- What falls out of the latest entries has as many of them behind it as there is room
for. -/
theorem exists_append_rtake (l : List α) (n : ℕ) :
    ∃ dropped, l = dropped ++ l.rtake n ∧ (dropped ≠ [] → (l.rtake n).length = n) := by
  refine ⟨l.take (l.length - n), (List.take_append_drop _ _).symm, fun hne => ?_⟩
  have hlength : l.length - n ≠ 0 := fun hzero => hne (by rw [hzero, List.take_zero])
  rw [length_rtake]
  omega

/-- The latest entries of a log that kept its latest entries. -/
theorem rtake_rtake_append (l m : List α) (n : ℕ) :
    (l.rtake n ++ m).rtake n = (l ++ m).rtake n := by
  obtain ⟨dropped, hsplit, hfull⟩ := exists_append_rtake l n
  by_cases hne : dropped = []
  · rw [hne, List.nil_append] at hsplit
    rw [← hsplit]
  · have hle : n ≤ (l.rtake n ++ m).length := by
      rw [List.length_append, hfull hne]
      omega
    conv_rhs => rw [hsplit, List.append_assoc, rtake_append_of_le hle]

end Latest

section Cutoff

variable {α : Type*} [LinearOrder α] {l m : List α} {c c' : α} {n : ℕ}

/-- What is dropped below a cutoff does not count from a later one on. -/
theorem countP_dropWhile_lt (l : List α) (h : c ≤ c') :
    (l.dropWhile fun t => decide (t < c)).countP (fun t => decide (c' ≤ t)) =
      l.countP fun t => decide (c' ≤ t) := by
  induction l with
  | nil => rfl
  | cons t l ih =>
    by_cases ht : t < c
    · have hout : ¬ c' ≤ t := not_le.mpr (ht.trans_le h)
      rw [List.dropWhile_cons_of_pos (by simpa using ht), ih,
        List.countP_cons_of_neg (by simpa using hout)]
    · rw [List.dropWhile_cons_of_neg (by simpa using ht)]

theorem dropWhile_lt_eq_filter (hl : l.Pairwise (· ≤ ·)) :
    (l.dropWhile fun t => decide (t < c)) = l.filter fun t => decide (c ≤ t) := by
  induction l with
  | nil => rfl
  | cons t l ih =>
    obtain ⟨hhead, htail⟩ := List.pairwise_cons.mp hl
    by_cases ht : t < c
    · rw [List.dropWhile_cons_of_pos (by simpa using ht), ih htail,
        List.filter_cons_of_neg (by simpa using ht)]
    · have hall : ∀ u ∈ t :: l, decide (c ≤ u) = true := by
        intro u hu
        rcases List.mem_cons.mp hu with rfl | hu
        · exact decide_eq_true (not_lt.mp ht)
        · exact decide_eq_true ((not_lt.mp ht).trans (hhead u hu))
      rw [List.dropWhile_cons_of_neg (by simpa using ht), List.filter_eq_self.mpr hall]

/-- The latest entries from a cutoff on, as many as there is room for. -/
def recent (c : α) (n : ℕ) (l : List α) : List α := (l.filter fun t => decide (c ≤ t)).rtake n

theorem recent_sublist (c : α) (n : ℕ) (l : List α) : (recent c n l).Sublist l :=
  (rtake_sublist _ n).trans List.filter_sublist

theorem length_recent (c : α) (n : ℕ) (l : List α) :
    (recent c n l).length = min n (l.countP fun t => decide (c ≤ t)) := by
  rw [recent, length_rtake, List.countP_eq_length_filter]

/-- In a log in order, an entry that fell out and still counts is followed by a full window of
entries that count as well. -/
theorem rtake_filter_rtake (hl : l.Pairwise (· ≤ ·)) (c : α) (n : ℕ) (m : List α) :
    ((l.rtake n).filter (fun t => decide (c ≤ t)) ++ m).rtake n =
      (l.filter (fun t => decide (c ≤ t)) ++ m).rtake n := by
  obtain ⟨dropped, hsplit, hfull⟩ := exists_append_rtake l n
  generalize l.rtake n = kept at hsplit hfull
  subst hsplit
  rw [List.filter_append, List.append_assoc]
  by_cases hout : dropped.filter (fun t => decide (c ≤ t)) = []
  · rw [hout, List.nil_append]
  · obtain ⟨t, ht⟩ := List.exists_mem_of_ne_nil _ hout
    obtain ⟨htmem, htc⟩ := List.mem_filter.mp ht
    have hkept : kept.filter (fun t => decide (c ≤ t)) = kept := by
      refine List.filter_eq_self.mpr fun u hu => ?_
      have hle : t ≤ u := (List.pairwise_append.mp hl).2.2 t htmem u hu
      exact decide_eq_true ((of_decide_eq_true htc).trans hle)
    have hlength : n ≤ (kept ++ m).length := by
      rw [List.length_append, hfull (List.ne_nil_of_mem htmem)]
      omega
    rw [hkept, rtake_append_of_le hlength]

/-- Pruning a pruned log together with later entries is pruning the whole log. -/
theorem recent_recent_append (hl : l.Pairwise (· ≤ ·)) (h : c ≤ c') (n : ℕ) (m : List α) :
    recent c' n (recent c n l ++ m) = recent c' n (l ++ m) := by
  have hfilter : (l.filter fun t => decide (c ≤ t)).filter (fun t => decide (c' ≤ t)) =
      l.filter fun t => decide (c' ≤ t) := by
    rw [List.filter_filter]
    refine List.filter_congr fun t _ => ?_
    rw [Bool.and_eq_left_iff_imp]
    intro ht
    exact decide_eq_true (h.trans (of_decide_eq_true ht))
  rw [recent, recent, recent, List.filter_append, List.filter_append,
    rtake_filter_rtake (hl.sublist List.filter_sublist), hfilter]

end Cutoff

end GpuSidecar.Window
