import Mathlib.Data.List.Nodup

/-!
# Collecting distinct values

A loop that appends a value to its result unless it is there already collects the
values of a list in the order of their first appearance, each of them once.
-/

namespace GpuSidecar.Distinct

variable {α : Type*} [DecidableEq α]

/-- Appends a value that is not there yet. -/
def insertNew (out : List α) (a : α) : List α := if a ∈ out then out else out ++ [a]

theorem mem_insertNew {out : List α} {a b : α} : b ∈ insertNew out a ↔ b ∈ out ∨ b = a := by
  rw [insertNew]
  split
  · rename_i h
    exact ⟨.inl, fun hb => hb.elim id fun hb => hb ▸ h⟩
  · simp

theorem nodup_insertNew {out : List α} (h : out.Nodup) (a : α) : (insertNew out a).Nodup := by
  rw [insertNew]
  split
  · exact h
  · rename_i ha
    rw [← List.concat_eq_append]
    exact h.concat ha

/-- The loop collects what it started with and the values of the list. -/
theorem mem_foldl_insertNew {out as : List α} {b : α} :
    b ∈ as.foldl insertNew out ↔ b ∈ out ∨ b ∈ as := by
  induction as generalizing out with
  | nil => simp
  | cons a as ih => rw [List.foldl_cons, ih, mem_insertNew, List.mem_cons, or_assoc]

theorem nodup_foldl_insertNew {out : List α} (h : out.Nodup) (as : List α) :
    (as.foldl insertNew out).Nodup := by
  induction as generalizing out with
  | nil => exact h
  | cons a as ih => exact ih (nodup_insertNew h a)

end GpuSidecar.Distinct
