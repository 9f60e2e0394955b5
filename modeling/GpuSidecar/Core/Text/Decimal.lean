import GpuSidecar.Core.Word.Int64
import Mathlib.Data.List.Basic

/-!
# Numbers in decimal

The decimal text of a number, as a text in which it stands at the end: its characters, its
length, and that the last separator before it tells where it begins.
-/

namespace GpuSidecar.Text

theorem toList_toString (n : ℕ) : (toString n).toList = Nat.toDigits 10 n := by
  rw [Nat.toString_eq_ofList_toDigits, String.toList_ofList]

theorem isDigit_of_mem_toString {n : ℕ} {c : Char} (h : c ∈ (toString n).toList) :
    c.isDigit = true := by
  rw [toList_toString] at h
  exact Nat.isDigit_of_mem_toDigits (by decide) (by decide) h

theorem toString_nat_inj {m n : ℕ} (h : (toString m).toList = (toString n).toList) : m = n := by
  rw [toList_toString, toList_toString] at h
  calc
    m = Nat.ofDigitChars 10 (Nat.toDigits 10 m) 0 := Nat.ofDigitChars_ten_toDigits.symm
    _ = Nat.ofDigitChars 10 (Nat.toDigits 10 n) 0 := by rw [h]
    _ = n := Nat.ofDigitChars_ten_toDigits

/-- An integer in decimal is its magnitude, with a sign if it is negative. -/
theorem toList_toString_int (n : ℤ) :
    (toString n).toList = (if n < 0 then ['-'] else []) ++ (toString n.natAbs).toList := by
  rw [Int.toString_eq_repr, Int.repr_eq_if, Nat.toString_eq_repr]
  split
  · rename_i hn
    have habs : n.toNat = n.natAbs := by omega
    rw [if_neg (Int.not_lt.mpr hn), habs, List.nil_append]
  · rename_i hn
    have habs : (-n).toNat = n.natAbs := by omega
    rw [if_pos (Int.not_le.mp hn), habs, String.toList_append]
    rfl

theorem mem_toString_int {n : ℤ} {c : Char} (h : c ∈ (toString n).toList) :
    c = '-' ∨ c.isDigit = true := by
  rw [toList_toString_int, List.mem_append] at h
  rcases h with h | h
  · left
    split at h
    · exact List.mem_singleton.mp h
    · cases h
  · exact .inr (isDigit_of_mem_toString h)

/-- A 64-bit number has at most nineteen digits. -/
theorem length_toString_int_le {n : ℤ} (h : Word.InRange n) : (toString n).toList.length ≤ 20 := by
  have hdigits : (toString n.natAbs).toList.length ≤ 19 := by
    rw [toList_toString, Nat.length_toDigits_le_iff (by decide) (by decide)]
    rw [Word.InRange] at h
    omega
  rw [toList_toString_int, List.length_append]
  split
  · rw [List.length_singleton]
    omega
  · rw [List.length_nil]
    omega

/-- The last occurrence of a separator splits a list in one way. -/
theorem append_cons_inj_of_last {α : Type*} {c : α} {s t u v : List α} (hu : c ∉ u) (hv : c ∉ v)
    (h : s ++ c :: u = t ++ c :: v) : s = t ∧ u = v := by
  rcases List.append_eq_append_iff.mp h with ⟨m, rfl, hm⟩ | ⟨m, rfl, hm⟩
  · cases m with
    | nil => simpa using hm
    | cons d m =>
      obtain ⟨-, rfl⟩ := List.cons_eq_cons.mp hm
      simp at hu
  · cases m with
    | nil => simpa [eq_comm] using hm
    | cons d m =>
      obtain ⟨-, rfl⟩ := List.cons_eq_cons.mp hm
      simp at hv

end GpuSidecar.Text
